import Fibonacci.Main
import Fibonacci.Proofs.ConfigText
import Fibonacci.Proofs.Diagnostics
import Fibonacci.Proofs.JsonReport
import Fibonacci.Proofs.Shadowing
import Fibonacci.Proofs.Indices
import Fibonacci.Proofs.Overflow
import Fibonacci.Proofs.Repetition
import Fibonacci.Proofs.Benchmark
import Fibonacci.Proofs.CommandLine
import Fibonacci.Proofs.IndexGrammar
import Fibonacci.Proofs.Resolution
import Fibonacci.Proofs.ConfigEntries
import Fibonacci.Proofs.ClosedForm
import Fibonacci.Proofs.Emission
import Fibonacci.Proofs.HumanReport
import Fibonacci.Proofs.CallOrder
import Fibonacci.Proofs.AlgorithmNames
import Fibonacci.Proofs.Padding
import Fibonacci.Proofs.BenchmarkLine
import Fibonacci.Proofs.Rounds
