import InformerGen.Session.Folder
import InformerGen.Json.Reader
import InformerGen.Proofs.Imports.Merging
import InformerGen.Proofs.Alias.Assignment
import InformerGen.Proofs.Generator.Family
import InformerGen.Proofs.Session.Everything
import InformerGen.Proofs.Session.Reordering
import InformerGen.Proofs.Session.File
import InformerGen.Proofs.Alias.Collecting
import InformerGen.Proofs.Alias.Turns
import InformerGen.Proofs.Resolver.Calls
import InformerGen.Proofs.Generator.Directives
import InformerGen.Proofs.Naming.Keys
import InformerGen.Proofs.Alias.Lengthening
import InformerGen.Proofs.Directive.ReadOnly
import InformerGen.Proofs.Directive.Occurrences
import InformerGen.Proofs.Directive.Warnings
import InformerGen.Proofs.Template.Pieces
import InformerGen.Proofs.Template.Joining
import InformerGen.Proofs.Manifest.Validation
import InformerGen.Proofs.Universe.Declarations
import InformerGen.Proofs.Universe.Insertion
import InformerGen.Proofs.Naming.Exceptions
import InformerGen.Proofs.Naming.Plural
import InformerGen.Proofs.Imports.Lines
import InformerGen.Proofs.Layout
import InformerGen.Proofs.Manifest.Place
import InformerGen.Proofs.Directive.Groups
import InformerGen.Proofs.Json.Universe
