import DataGrammar.Coercion
import DataGrammar.Main
import DataGrammar.Proofs.Coercion.Integer
import DataGrammar.Proofs.Coercion.Lenience
import DataGrammar.Proofs.CommandLine.Answer
import DataGrammar.Proofs.Compilation.Defects
import DataGrammar.Proofs.Compilation.Reachable
import DataGrammar.Proofs.Compilation.Splicing
import DataGrammar.Proofs.Depth.Counter
import DataGrammar.Proofs.Depth.Reentry
import DataGrammar.Proofs.Matching.Bounds
import DataGrammar.Proofs.Matching.Branches
import DataGrammar.Proofs.Matching.Course
import DataGrammar.Proofs.Matching.Origin
import DataGrammar.Proofs.Matching.Recognition
import DataGrammar.Proofs.Matching.Termination
import DataGrammar.Proofs.Notation.Depth
import DataGrammar.Proofs.Notation.Regardless
import DataGrammar.Proofs.Notation.RoundTrip
import DataGrammar.Proofs.Notation.Superset
import DataGrammar.Proofs.Source.Agreement
import DataGrammar.Proofs.Source.Bounds
import DataGrammar.Proofs.Source.Labels
import DataGrammar.Proofs.Source.Slashes
