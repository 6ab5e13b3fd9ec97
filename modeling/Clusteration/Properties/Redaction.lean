import Clusteration.Scripts.DokployRepair

namespace Clusteration.Scripts

mutual
/-- The same shape, the same keys, and the same values except under sensitive keys. -/
def Alike (lower : String → String) : Json → Json → Prop
  | .obj fields, .obj fields' => AlikeFields lower fields fields'
  | .arr items, .arr items' => AlikeItems lower items items'
  | value, value' => value = value'

def AlikeFields (lower : String → String) : List (String × Json) → List (String × Json) → Prop
  | [], [] => True
  | (key, child) :: fields, (key', child') :: fields' =>
    key = key' ∧ (isSensitive lower key = true ∨ Alike lower child child') ∧
      AlikeFields lower fields fields'
  | _, _ => False

def AlikeItems (lower : String → String) : List Json → List Json → Prop
  | [], [] => True
  | item :: items, item' :: items' => Alike lower item item' ∧ AlikeItems lower items items'
  | _, _ => False
end

section Redact
variable {lower : String → String}

mutual
theorem redact_alike {v w : Json} (h : Alike lower v w) : redact lower v = redact lower w := by
  cases v with
  | obj fields =>
    cases w with
    | obj fields' =>
      rw [Alike] at h
      rw [redact, redact, redactFields_alike h]
    | _ => simp [Alike] at h
  | arr items =>
    cases w with
    | arr items' =>
      rw [Alike] at h
      rw [redact, redact, redactItems_alike 20 h]
    | _ => simp [Alike] at h
  | _ => cases w <;> simp_all [Alike]

theorem redactFields_alike {fields fields' : List (String × Json)}
    (h : AlikeFields lower fields fields') :
    redactFields lower fields = redactFields lower fields' := by
  cases fields with
  | nil =>
    cases fields' with
    | nil => rfl
    | cons field' fields' => simp [AlikeFields] at h
  | cons field fields =>
    obtain ⟨key, child⟩ := field
    cases fields' with
    | nil => simp [AlikeFields] at h
    | cons field' fields' =>
      obtain ⟨key', child'⟩ := field'
      rw [AlikeFields] at h
      obtain ⟨rfl, hchild, hrest⟩ := h
      rw [redactFields, redactFields, redactFields_alike hrest]
      rcases hchild with hsensitive | hchild
      · rw [if_pos hsensitive, if_pos hsensitive]
      · rw [redact_alike hchild]

theorem redactItems_alike {items items' : List Json} (limit : Nat)
    (h : AlikeItems lower items items') :
    redactItems lower limit items = redactItems lower limit items' := by
  cases items with
  | nil =>
    cases items' with
    | nil => rfl
    | cons item' items' => simp [AlikeItems] at h
  | cons item items =>
    cases items' with
    | nil => simp [AlikeItems] at h
    | cons item' items' =>
      rw [AlikeItems] at h
      cases limit with
      | zero => rw [redactItems, redactItems]
      | succ limit => rw [redactItems, redactItems, redact_alike h.1, redactItems_alike limit h.2]
end

mutual
theorem redact_redact (v : Json) : redact lower (redact lower v) = redact lower v := by
  cases v with
  | obj fields => rw [redact, redact, redactFields_redactFields]
  | arr items => rw [redact, redact, redactItems_redactItems]
  | _ => simp [redact]

theorem redactFields_redactFields (fields : List (String × Json)) :
    redactFields lower (redactFields lower fields) = redactFields lower fields := by
  cases fields with
  | nil => rfl
  | cons field fields =>
    obtain ⟨key, child⟩ := field
    rw [redactFields, redactFields, redactFields_redactFields]
    split
    · rfl
    · rw [redact_redact]

theorem redactItems_redactItems (limit : Nat) (items : List Json) :
    redactItems lower limit (redactItems lower limit items) = redactItems lower limit items := by
  cases items with
  | nil => rw [redactItems, redactItems]
  | cons item items =>
    cases limit with
    | zero => rw [redactItems, redactItems]
    | succ limit => rw [redactItems, redactItems, redact_redact, redactItems_redactItems]
end

end Redact

/-- The output does not depend on what stands under sensitive keys, and there is nothing left to
redact in it. -/
theorem redact_noninterference (lower : String → String) :
    (∀ v w, Alike lower v w → redact lower v = redact lower w ∧
      ∀ label, printJson lower label v = printJson lower label w) ∧
    ∀ v, redact lower (redact lower v) = redact lower v := by
  refine ⟨fun v w h => ?_, fun v => redact_redact v⟩
  have hsame : redact lower v = redact lower w := redact_alike h
  refine ⟨hsame, fun label => ?_⟩
  rw [printJson, printJson, hsame]

/-- Two applications with different passwords, three levels down. -/
theorem redact_noninterference_passwords :
    let answer (password : Json) : Json := .arr [.obj [("name", .str "panel"),
      ("config", .arr [.obj [("DB_PASSWORD", password)], .int 1])]]
    redact String.toLower (answer (.str "hunter2")) = redact String.toLower (answer (.arr [.null])) ∧
      printJson String.toLower "app" (answer (.str "hunter2")) =
        printJson String.toLower "app" (answer (.arr [.null])) := by
  intro answer
  have hkey : isSensitive String.toLower "DB_PASSWORD" = true := by decide +kernel
  have halike : Alike String.toLower (answer (.str "hunter2")) (answer (.arr [.null])) := by
    simp [answer, Alike, AlikeItems, AlikeFields, hkey]
  obtain ⟨hsame, hprint⟩ := (redact_noninterference String.toLower).1 _ _ halike
  exact ⟨hsame, hprint "app"⟩

end Clusteration.Scripts
