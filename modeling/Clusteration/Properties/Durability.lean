import Clusteration.Storage.Database

namespace Clusteration.Storage

/-- A SQLite file whose path begins with `/data` but does not lie in that directory. -/
def Url.LooksDurable (url : Url) : Prop :=
  url.backendName = "sqlite" ∧ startsWith (orEmpty url.database) "/data" = true ∧
    startsWith (orEmpty url.database) "/data/" = false

theorem startsWith_data {path : String} (h : startsWith path "/data/" = true) :
    startsWith path "/data" = true := by
  rw [startsWith, List.isPrefixOf_iff_prefix] at h ⊢
  have hdata : "/data".toList <+: "/data/".toList := by decide
  exact hdata.trans h

section Guard
variable {makeUrl : MakeUrl} {settings : Settings} {url : Url}

theorem assertDurableDb_starts (hurl : makeUrl settings.databaseUrl = some url)
    (hprod : settings.environment = "production") : assertDurableDb makeUrl settings = .ok () ↔
      (url.backendName = "sqlite" → startsWith (orEmpty url.database) "/data" = true) := by
  rw [assertDurableDb, if_neg (not_not.mpr hprod), hurl]
  by_cases hb : url.backendName = "sqlite"
  · cases hd : startsWith (orEmpty url.database) "/data" <;> simp [hb, hd]
  · simp [hb]

theorem databaseDurability_durable (hurl : makeUrl settings.databaseUrl = some url) :
    (databaseDurability makeUrl settings).durable = true ↔
      (url.backendName = "sqlite" → startsWith (orEmpty url.database) "/data/" = true) := by
  rw [databaseDurability, hurl]
  by_cases hb : url.backendName = "sqlite"
  · simp [hb]
  · simp [hb]

/-- They agree except on the look-alikes, which the guard lets start. -/
theorem guard_agrees_iff (hurl : makeUrl settings.databaseUrl = some url)
    (hprod : settings.environment = "production") :
    (assertDurableDb makeUrl settings = .ok () ↔
      (databaseDurability makeUrl settings).durable = true) ↔ ¬ url.LooksDurable := by
  rw [assertDurableDb_starts hurl hprod, databaseDurability_durable hurl]
  constructor
  · intro hagree hlooks
    obtain ⟨hb, hdata, hout⟩ := hlooks
    have hin := hagree.mp (fun _ => hdata) hb
    rw [hout] at hin
    cases hin
  · intro hlooks
    constructor
    · intro hguard hb
      by_contra hout
      exact hlooks ⟨hb, hguard hb, Bool.not_eq_true _ ▸ hout⟩
    · intro hdurable hb
      exact startsWith_data (hdurable hb)

end Guard

/-- `make_url` of `sqlite+aiosqlite:///path`. -/
def makeSqliteUrl : MakeUrl := fun text =>
  if startsWith text "sqlite+aiosqlite:///" then
    let path := (text.toList.drop 20).takeWhile fun c => c ≠ '?'
    some { backendName := "sqlite", database := if path = [] then none else some (String.ofList path) }
  else none

def production (databaseUrl : String) : Settings := { environment := "production", databaseUrl }

/-- The documented URL. -/
theorem guard_agrees_documented :
    assertDurableDb makeSqliteUrl (production "sqlite+aiosqlite:////data/vmpanel.db") = .ok () ↔
      (databaseDurability makeSqliteUrl
        (production "sqlite+aiosqlite:////data/vmpanel.db")).durable = true := by
  have hurl : makeSqliteUrl (production "sqlite+aiosqlite:////data/vmpanel.db").databaseUrl =
      some { backendName := "sqlite", database := some "/data/vmpanel.db" } := by decide +kernel
  apply (guard_agrees_iff hurl rfl).mpr
  rintro ⟨_, _, hout⟩
  revert hout
  decide +kernel

/-- A directory beside the volume passes the guard. -/
theorem guard_disagrees : ¬ ∀ (makeUrl : MakeUrl) (settings : Settings) (url : Url),
    makeUrl settings.databaseUrl = some url → settings.environment = "production" →
    (assertDurableDb makeUrl settings = .ok () ↔
      (databaseDurability makeUrl settings).durable = true) := by
  intro h
  have hurl : makeSqliteUrl (production "sqlite+aiosqlite:////database/vmpanel.db").databaseUrl =
      some { backendName := "sqlite", database := some "/database/vmpanel.db" } := by decide +kernel
  have hagree := h makeSqliteUrl (production "sqlite+aiosqlite:////database/vmpanel.db") _ hurl rfl
  exact (guard_agrees_iff hurl rfl).mp hagree ⟨rfl, by decide +kernel, by decide +kernel⟩

end Clusteration.Storage
