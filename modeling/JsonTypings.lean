import JsonTypings.Benchmark.Suite
import JsonTypings.Chart.Export
import JsonTypings.Main
import JsonTypings.Sample.Collection
import JsonTypings.Typing.Document
import JsonTypings.Proofs.Typing.Conformance
import JsonTypings.Proofs.Typing.Decoding
import JsonTypings.Proofs.Typing.Noninterference
import JsonTypings.Proofs.CommandLine.Effect
import JsonTypings.Proofs.Typing.Acceptance
import JsonTypings.Proofs.Typing.ReadBack
import JsonTypings.Proofs.Typing.Wrapping
import JsonTypings.Proofs.Typing.Reordering
import JsonTypings.Proofs.Typing.Transcoding
import JsonTypings.Proofs.Typing.Composition
import JsonTypings.Proofs.Sample.KeySupply
import JsonTypings.Proofs.Sample.Nesting
import JsonTypings.Proofs.Benchmark.Readings
import JsonTypings.Proofs.Naming.Kebab
import JsonTypings.Proofs.Typing.Sharing
