import Mathlib
import Flowchart.Proofs.Text

/-!
# Runs of the command

The arguments are read one after the other, and raising the verbose flag commutes with every
step of the reading: with `--verbose` or `-v` in front, a command line reads as without it, the
flag raised (`Arguments.read_verbose`). No setting of a run reads that flag, so it changes
nothing that a run writes, saves or exits with (`Command.run_verbose`).

A strict run over a chart text with a line that states nothing ends with status 1, whatever
becomes of its output (`Command.run_strict`): the rendering is written first, and a run that
wrote it fails afterwards with the message of the chart.
-/

namespace Flowchart

namespace Arguments

/-- The same command line with the verbose flag raised. -/
abbrev verbosely (a : Arguments) : Arguments := { a with verbose := true }

theorem raise_verbosely (a : Arguments) (f : Flag) :
    a.verbosely.raise f = (a.raise f).verbosely := by
  cases f <;> rfl

theorem assign_verbosely (a : Arguments) (s : Setting) (v : String) :
    a.verbosely.assign s v = (a.assign s v).verbosely := by
  cases s <;> rfl

theorem shortGroup_verbosely (a : Arguments) (cs : List Char) :
    a.verbosely.shortGroup cs = (a.shortGroup cs).map (Prod.map verbosely id) := by
  induction cs generalizing a with
  | nil => rfl
  | cons c cs ih =>
      unfold shortGroup
      split
      · rw [raise_verbosely, ih]
      · split
        · rfl
        · rw [assign_verbosely]
          rfl
      · rfl

theorem longOption_verbosely (a : Arguments) (arg : String) :
    a.verbosely.longOption arg = (a.longOption arg).map (Prod.map verbosely id) := by
  unfold longOption
  generalize String.ofList (arg.toList.takeWhile (· != '=')) = name
  split <;> cases hf : Flag.ofLong? name <;> cases hs : Setting.ofLong? name <;>
    simp only [hf, hs, Except.map, Prod.map, id, raise_verbosely, assign_verbosely]

theorem option_verbosely (a : Arguments) (arg : String) :
    a.verbosely.option arg = (a.option arg).map (Prod.map verbosely id) := by
  unfold option
  split
  · exact longOption_verbosely a arg
  · exact shortGroup_verbosely a _
  · rfl

theorem readFrom_verbosely (a : Arguments) (e : Expecting) (args : List String) :
    a.verbosely.readFrom e args = (a.readFrom e args).map verbosely := by
  induction args generalizing a e with
  | nil => cases e <;> rfl
  | cons arg rest ih =>
      cases e with
      | value o s =>
          simp only [readFrom]
          rw [assign_verbosely, ih]
      | anything =>
          simp only [readFrom]
          split
          · rfl
          · rw [option_verbosely]
            cases a.option arg with
            | error err => rfl
            | ok r => exact ih r.1 r.2

theorem read_verbose (args : List String) :
    read ("--verbose" :: args) = (read args).map verbosely ∧
      read ("-v" :: args) = (read args).map verbosely := by
  constructor
  · exact readFrom_verbosely {} .anything args
  · exact readFrom_verbosely {} .anything args

end Arguments

theorem Options.read_verbose (files : Files) (args : List String) :
    Options.read files ("--verbose" :: args) = Options.read files args ∧
      Options.read files ("-v" :: args) = Options.read files args := by
  obtain ⟨hlong, hshort⟩ := Arguments.read_verbose args
  unfold Options.read
  rw [hlong, hshort]
  cases Arguments.read args <;> exact ⟨rfl, rfl⟩

/-- `--verbose` and `-v` are accepted and change nothing that a run writes, saves or exits
with. -/
theorem Command.run_verbose (files : Files) (args : List String) (input : String) :
    Command.run files ("--verbose" :: args) input = Command.run files args input ∧
      Command.run files ("-v" :: args) input = Command.run files args input := by
  obtain ⟨hlong, hshort⟩ := Options.read_verbose files args
  unfold Command.run
  rw [hlong, hshort]
  exact ⟨rfl, rfl⟩

namespace Outcome

theorem exitCode_deliver {files : Files} {o : Options} {rendered : String} {out : Outcome}
    (h : deliver files o rendered = .ok out) : out.exitCode = 0 ∨ out.exitCode = 1 := by
  unfold deliver at h
  split at h
  · cases h
    exact .inl rfl
  · split at h
    · cases h
    · split at h <;> cases h
      · exact .inr rfl
      · exact .inl rfl

theorem exitCode_ofOptions_strict {files : Files} {o : Options} {input text : String}
    {out : Outcome} (hstrict : o.strict = true) (htext : chartText files input o.input = .ok text)
    (hbad : (Chart.read {} (String.ofList (Text.unifyLineEnds text.toList))).ok = false)
    (h : ofOptions files o input = .ok out) : out.exitCode = 1 := by
  unfold ofOptions at h
  rw [htext] at h
  simp only at h
  split at h
  · cases h
    rfl
  · split at h
    · cases h
    · rename_i out' hdeliver
      split at h
      · cases h
        rfl
      · rename_i hcond
        cases h
        rcases exitCode_deliver hdeliver with h0 | h1
        · simp [h0, hstrict, hbad] at hcond
        · exact h1

end Outcome

/-- A strict run over a chart text with a line that states nothing ends with status 1, whether
it writes its output, fails to write it or cannot make it. -/
theorem Command.run_strict {files : Files} {args : List String} {input text : String}
    {o : Options} {out : Outcome} (hread : Options.read files args = .ok o)
    (hstrict : o.strict = true) (htext : Outcome.chartText files input o.input = .ok text)
    (hbad : (Chart.read {} (String.ofList (Text.unifyLineEnds text.toList))).ok = false)
    (h : Command.run files args input = .ok out) : out.exitCode = 1 := by
  unfold Command.run at h
  rw [hread] at h
  exact Outcome.exitCode_ofOptions_strict hstrict htext hbad h

example : ((Command.run (Files.ofList []) ["-s", "--strict"] "A --> B - [x]\r\nnope").toOption.map
    fun out => (out.stderr, out.exitCode)) = some ("parse error: Invalid syntax on line 2\n", 1) := by
  decide

end Flowchart
