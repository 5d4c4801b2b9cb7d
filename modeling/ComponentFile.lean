import ComponentFile.Main
import ComponentFile.Proofs.Document.NormalForm
import ComponentFile.Proofs.Document.Recompilation
import ComponentFile.Proofs.Markup.Misnesting
import ComponentFile.Proofs.Markup.Scanner.Elements
import ComponentFile.Proofs.Markup.Tree
import ComponentFile.Proofs.Files.Preservation
import ComponentFile.Proofs.Program.Emission
import ComponentFile.Proofs.Program.Targets
import ComponentFile.Proofs.Document.Calls
import ComponentFile.Proofs.Document.Stub
import ComponentFile.Proofs.Language.Case
import ComponentFile.Proofs.Language.Scoped
import ComponentFile.Proofs.Document.Editing
import ComponentFile.Proofs.Files.Containment
import ComponentFile.Proofs.Files.Exactness
import ComponentFile.Proofs.Document.Margin
import ComponentFile.Proofs.Markup.Attributes
import ComponentFile.Proofs.Compiler.LoadPaths
import ComponentFile.Proofs.Settings.Reading
import ComponentFile.Proofs.Settings.Replacement
import ComponentFile.Proofs.Compiler.FileOptions
import ComponentFile.Proofs.Path.Name
import ComponentFile.Proofs.Markup.Scanner.FirstEndTag
import ComponentFile.Proofs.Shell.Programs
