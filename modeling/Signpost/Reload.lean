import Signpost.Settings.Loading

/-!
# Reloading settings

Each time the settings file changes it is loaded anew.  Settings that load are sent on to the
running server, the others are only reported, and both are counted.
-/

namespace Signpost

/-- How many reloads went well and how many did not. -/
structure ReloadCount where
  /-- Reloads whose settings were sent on. -/
  ok : Nat := 0
  /-- Reloads whose settings were reported as bad. -/
  error : Nat := 0
  deriving DecidableEq, Repr

/-- What a watched file has led to. -/
structure Watch where
  /-- The outcome of each reload. -/
  outcomes : List (Except SettingsError Settings) := []
  /-- The counts of the outcomes. -/
  count : ReloadCount := {}

namespace Watch

/-- One change of the file. -/
def reload (w : Watch) (file : FileState) : Watch :=
  match Settings.load? file with
  | .ok s => ⟨w.outcomes ++ [.ok s], { w.count with ok := w.count.ok + 1 }⟩
  | .error e => ⟨w.outcomes ++ [.error e], { w.count with error := w.count.error + 1 }⟩

/-- A sequence of changes of the file. -/
def all (files : List FileState) : Watch :=
  files.foldl reload {}

/-- The settings that were sent on, in order. -/
def sent (w : Watch) : List Settings :=
  w.outcomes.filterMap Except.toOption

end Watch

end Signpost
