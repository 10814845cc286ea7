import QueryDialect.Expr.Term
import QueryDialect.Proofs.BuiltTerms
import QueryDialect.Proofs.Composition
import QueryDialect.Proofs.DepthLimit
import QueryDialect.Proofs.HandleIdentity
import QueryDialect.Proofs.MarkerAgreement
import QueryDialect.Proofs.OperatorExpansion
import QueryDialect.Proofs.PatternNormalForm
import QueryDialect.Proofs.PlaceholderRanges
import QueryDialect.Proofs.StoreTransparency
import QueryDialect.Proofs.Succession
import QueryDialect.Statement
import QueryDialect.Proofs.ExpressionEquality
import QueryDialect.Proofs.PatternGrammar
import QueryDialect.Proofs.RegisteredPatterns
import QueryDialect.Proofs.IndexOverflow
import QueryDialect.Proofs.CallSequence
import QueryDialect.Proofs.LiteralReading
import QueryDialect.Proofs.ErrorReports
import QueryDialect.Proofs.Concatenation
import QueryDialect.Proofs.FoldedLiterals
import QueryDialect.Proofs.TypeDiscipline
import QueryDialect.Proofs.PartialEquivalence
import QueryDialect.Proofs.DistinctLiterals
import QueryDialect.Proofs.FractionalLiterals
import QueryDialect.Proofs.PositionOrder
import QueryDialect.Proofs.PathTexts
