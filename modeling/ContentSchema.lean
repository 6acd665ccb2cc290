import ContentSchema.Main
import ContentSchema.Proofs.BindingNames
import ContentSchema.Proofs.CommandReports
import ContentSchema.Proofs.CommandRuns
import ContentSchema.Proofs.ConvertedWidgets
import ContentSchema.Proofs.DeclaredConstants
import ContentSchema.Proofs.DocumentEdits
import ContentSchema.Proofs.ErrorLines
import ContentSchema.Proofs.FaultLocality
import ContentSchema.Proofs.Hygiene
import ContentSchema.Proofs.LocaleDirectories
import ContentSchema.Proofs.MessageLines
import ContentSchema.Proofs.ModuleLines
import ContentSchema.Proofs.ModuleOutline
import ContentSchema.Proofs.PathPrefix
import ContentSchema.Proofs.Quotations
import ContentSchema.Proofs.RecordKeys
import ContentSchema.Proofs.RecordLayout
import ContentSchema.Proofs.RejectedDescriptors
import ContentSchema.Proofs.Reload
import ContentSchema.Proofs.Requiredness
import ContentSchema.Proofs.ScriptLiterals
import ContentSchema.Proofs.Sessions
