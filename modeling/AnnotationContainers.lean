import AnnotationContainers.Json.Ordered
import AnnotationContainers.Main
import AnnotationContainers.Metadata.Encoding
import AnnotationContainers.Proofs.Chain.Construction
import AnnotationContainers.Proofs.Chain.Consultation
import AnnotationContainers.Proofs.Chain.Recognition
import AnnotationContainers.Proofs.Chain.Histories
import AnnotationContainers.Proofs.Cache.Transparency
import AnnotationContainers.Proofs.Instance.Documents
import AnnotationContainers.Proofs.Instance.Conformity
import AnnotationContainers.Proofs.Instance.Records
import AnnotationContainers.Proofs.Instance.NormalForm
import AnnotationContainers.Proofs.Instance.Typing
import AnnotationContainers.Proofs.Instance.RoundTrip
import AnnotationContainers.Proofs.Instance.Resolution
import AnnotationContainers.Proofs.Report.Elements
import AnnotationContainers.Proofs.Chain.Equality
import AnnotationContainers.Proofs.Cache.FirstAnswers
import AnnotationContainers.Proofs.Chain.Configuration
import AnnotationContainers.Proofs.Registry.Listing
import AnnotationContainers.Proofs.Report.Agreement
import AnnotationContainers.Proofs.Registry.Containment
import AnnotationContainers.Proofs.Instance.Containment
import AnnotationContainers.Proofs.Report.Reordering
import AnnotationContainers.Proofs.Chain.NativeMappings
import AnnotationContainers.Proofs.Registry.Reachability
import AnnotationContainers.Proofs.Report.Extension
import AnnotationContainers.Proofs.Metadata.Forms
import AnnotationContainers.Proofs.Registry.Refusals
import AnnotationContainers.Proofs.Chain.ConfiguredMappings
import AnnotationContainers.Proofs.Instance.Mismatches
import AnnotationContainers.Proofs.Instance.Faults
import AnnotationContainers.Proofs.Registry.WalkSteps
import AnnotationContainers.Proofs.Chain.Texts
import AnnotationContainers.Proofs.Instance.Unvalidated
