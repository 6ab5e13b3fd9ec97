import Mathlib.Data.List.Sort
import Mathlib.Data.String.Basic
import Clusteration.Framework.Items
import Clusteration.Storage.Database

namespace Clusteration.Storage

/-- `datetime.now(UTC)`, to the second. -/
structure Datetime where
  year : Nat
  month : Nat
  day : Nat
  hour : Nat
  minute : Nat
  second : Nat
  date_valid : year ≤ 9999 ∧ 1 ≤ month ∧ month ≤ 12 ∧ 1 ≤ day ∧ day ≤ 31
  time_valid : hour < 24 ∧ minute < 60 ∧ second < 60

/-- `n` with `width` decimal digits. -/
def padded : Nat → Nat → List Char
  | 0, _ => []
  | width + 1, n => Nat.digitChar (n / 10 ^ width % 10) :: padded width n

/-- `strftime("%Y%m%d-%H%M%S")` -/
def Datetime.stamp (t : Datetime) : List Char :=
  padded 4 t.year ++ padded 2 t.month ++ padded 2 t.day ++ '-' :: (padded 2 t.hour ++
    padded 2 t.minute ++ padded 2 t.second)

/-- The files of the backup directory by name. `true`: a complete copy of the database. -/
abbrev Dir := List (String × Bool)

def snapshotName (t : Datetime) : String := "vmpanel-" ++ String.ofList t.stamp ++ ".db"

/-- `glob("vmpanel-*.db")` -/
def glob (dir : Dir) : List String :=
  (dir.map Prod.fst).filter fun name =>
    "vmpanel-".toList.isPrefixOf name.toList && ".db".toList.isSuffixOf (name.toList.drop 8)

/-- How a copy ends: it is complete, or it fails and may leave an incomplete file. -/
inductive Copied where
  | done
  | failed (left : Bool)
  deriving DecidableEq

def Dir.put (dir : Dir) (name : String) (complete : Bool) : Dir :=
  Items.insertWith (fun _ new => new) name complete dir

/-- `snaps[:-keep] if keep > 0 else []` -/
def outdated (snaps : List String) (keep : Int) : List String :=
  if 0 < keep then snaps.take (snaps.length - keep.toNat) else []

/-- `_run_backup` at the time `now`: the file it returns, `none` where it raises, and the directory
after it. -/
def runBackup (dir : Dir) (now : Datetime) (keep : Int) (copied : Copied) : Option String × Dir :=
  let dest := snapshotName now
  match copied with
  | .failed left => (none, if left then dir.put dest false else dir)
  | .done =>
    let dir := dir.put dest true
    let snaps := (glob dir).insertionSort (· ≤ ·)
    let old := outdated snaps keep
    (some dest, dir.filter fun file => file.1 ∉ old)

/-- `make_backup`; `dbExists` is whether the database's file is there. -/
def makeBackup (makeUrl : MakeUrl) (settings : Settings) (dbExists : Bool) (dir : Dir)
    (now : Datetime) (copied : Copied) : Option String × Dir :=
  match sqliteDbPath makeUrl settings.databaseUrl with
  | none => (none, dir)
  | some _ =>
    if dbExists then runBackup dir now (max 1 settings.backupKeep) copied else (none, dir)

end Clusteration.Storage
