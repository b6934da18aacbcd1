import VoiceGrammar.Disk.Inventory
import VoiceGrammar.Main
import VoiceGrammar.Proofs.ArtifactFiles.Succession
import VoiceGrammar.Proofs.CommandLine.Arguments
import VoiceGrammar.Proofs.CommandLine.DryRun
import VoiceGrammar.Proofs.Compile.Extension
import VoiceGrammar.Proofs.Compile.Reordering
import VoiceGrammar.Proofs.Expansion.BodyGaps
import VoiceGrammar.Proofs.Expansion.BodyMeaning
import VoiceGrammar.Proofs.Expansion.Repetition
import VoiceGrammar.Proofs.Expansion.Watching
import VoiceGrammar.Proofs.Grammar.DocumentLines
import VoiceGrammar.Proofs.Lexicon.Insertions
import VoiceGrammar.Proofs.Rule.CanonicalText
import VoiceGrammar.Proofs.Rule.FirstFault
import VoiceGrammar.Proofs.Rule.GrammarSize
import VoiceGrammar.Proofs.Rule.Relaxation
import VoiceGrammar.Proofs.Rule.TokenForm
