import Clusteration.Storage.Backup

namespace Clusteration.Storage

def Datetime.fields (t : Datetime) : List Nat := [t.year, t.month, t.day, t.hour, t.minute, t.second]

def Datetime.before (t t' : Datetime) : Prop := t.fields < t'.fields

structure BackupRun where
  now : Datetime
  copied : Copied

/-- The directory after these runs. -/
def backups (keep : Int) (runs : List BackupRun) : Dir :=
  runs.foldl (fun dir run => (runBackup dir run.now keep run.copied).2) []

/-- The snapshots of the successful runs, oldest first. -/
def successes (runs : List BackupRun) : List String :=
  (runs.filter fun run => run.copied = .done).map fun run => snapshotName run.now

/-- The newest `keep` of them are still there, and complete. -/
def Retained (keep : Int) (runs : List BackupRun) : Prop :=
  ∀ name ∈ (successes runs).drop ((successes runs).length - keep.toNat),
    (name, true) ∈ backups keep runs

/-- So it is after every run, and no successful one leaves more than `keep` files. -/
def RetentionLaw (keep : Int) (runs : List BackupRun) : Prop :=
  (∀ done, done <+: runs → Retained keep done) ∧
  ∀ done run, done ++ [run] <+: runs → run.copied = .done →
    ((glob (backups keep (done ++ [run]))).length : Int) ≤ keep

/-- The runs that `make_backup` starts are such runs, and they keep at least one snapshot. -/
theorem foldl_makeBackup {makeUrl : MakeUrl} {settings : Settings} {path : String}
    (hpath : sqliteDbPath makeUrl settings.databaseUrl = some path) (runs : List BackupRun) :
    1 ≤ max 1 settings.backupKeep ∧
      runs.foldl (fun dir run => (makeBackup makeUrl settings true dir run.now run.copied).2) [] =
        backups (max 1 settings.backupKeep) runs := by
  refine ⟨le_max_left _ _, ?_⟩
  unfold backups makeBackup
  simp only [hpath, if_true]

def byName (dir : Dir) : Dir := dir.insertionSort fun file file' => file.1 ≤ file'.1

/-- Of the files there before a run, those that its rotation removes and those that it keeps. -/
def removed (keep : Int) (dir : Dir) : Dir := (byName dir).take (dir.length + 1 - keep.toNat)

def kept (keep : Int) (dir : Dir) : Dir := (byName dir).drop (dir.length + 1 - keep.toNat)

/-- No complete file has to go while an incomplete one stays. -/
def CompleteStay (keep : Int) (dir : Dir) : Prop :=
  (∃ file ∈ removed keep dir, file.2 = true) → ∀ file ∈ kept keep dir, file.2 = true

theorem length_padded (width n : Nat) : (padded width n).length = width := by
  induction width generalizing n with
  | zero => rfl
  | succ width ih => simp [padded, ih]

theorem digitChar_lt {d e : Nat} (h : d < e) (he : e < 10) : Nat.digitChar d < Nat.digitChar e := by
  have hall : ∀ e < 10, ∀ d < e, Nat.digitChar d < Nat.digitChar e := by decide
  exact hall e he d h

theorem padded_lt {width n n' : Nat} (h : n % 10 ^ width < n' % 10 ^ width) :
    padded width n < padded width n' := by
  induction width with
  | zero => simp [Nat.mod_one] at h
  | succ width ih =>
    rw [Nat.mod_pow_succ, Nat.mod_pow_succ] at h
    have hr := Nat.mod_lt n (Nat.pow_pos (n := width) (show 0 < 10 by omega))
    have hr' := Nat.mod_lt n' (Nat.pow_pos (n := width) (show 0 < 10 by omega))
    have hq' := Nat.mod_lt (n' / 10 ^ width) (show 0 < 10 by omega)
    simp only [padded]
    generalize hp : 10 ^ width = p at *
    rcases Nat.lt_trichotomy (n / p % 10) (n' / p % 10) with hlt | heq | hgt
    · exact List.cons_lt_cons_iff.mpr (.inl (digitChar_lt hlt hq'))
    · rw [heq] at h ⊢
      exact List.cons_lt_cons_iff.mpr (.inr ⟨rfl, ih (by omega)⟩)
    · have hmul : p * (n' / p % 10 + 1) ≤ p * (n / p % 10) := Nat.mul_le_mul_left p hgt
      rw [Nat.mul_add] at hmul
      omega

theorem append_lt_append {a a' : List Char} (hlen : a.length = a'.length) (h : a < a')
    (b b' : List Char) : a ++ b < a' ++ b' := by
  induction a generalizing a' with
  | nil =>
    cases a' with
    | nil => exact absurd h (List.not_lt_nil _)
    | cons c a' => cases hlen
  | cons c a ih =>
    cases a' with
    | nil => cases hlen
    | cons c' a' =>
      rcases List.cons_lt_cons_iff.mp h with hc | ⟨rfl, ha⟩
      · exact List.cons_lt_cons_iff.mpr (.inl hc)
      · exact List.cons_lt_cons_iff.mpr (.inr ⟨rfl, ih (by simpa using hlen) ha⟩)

theorem append_lt_left (a : List Char) {b b' : List Char} (h : b < b') : a ++ b < a ++ b' := by
  induction a with
  | nil => exact h
  | cons c a ih => exact List.cons_lt_cons_iff.mpr (.inr ⟨rfl, ih⟩)

/-- A field decides where those before it are equal. -/
theorem field_lt {width n n' : Nat} (h : n < n') (hn' : n' < 10 ^ width) (b b' : List Char) :
    padded width n ++ b < padded width n' ++ b' := by
  apply append_lt_append
  · rw [length_padded, length_padded]
  · apply padded_lt
    rwa [Nat.mod_eq_of_lt (h.trans hn'), Nat.mod_eq_of_lt hn']

theorem Datetime.stamp_lt {t t' : Datetime} (h : t.before t') : t.stamp < t'.stamp := by
  obtain ⟨hy, _, hmo, _, hd⟩ := t'.date_valid
  obtain ⟨hh, hmi, hs⟩ := t'.time_valid
  simp only [before, fields, List.cons_lt_cons_iff, List.lt_irrefl, and_false, or_false] at h
  simp only [stamp, List.append_assoc]
  rcases h with h | ⟨he, h | ⟨he', h | ⟨he'', h | ⟨he₃, h | ⟨he₄, h⟩⟩⟩⟩⟩
  · exact field_lt h (by omega) _ _
  · rw [he]
    exact append_lt_left _ (field_lt h (by omega) _ _)
  · rw [he, he']
    exact append_lt_left _ (append_lt_left _ (field_lt h (by omega) _ _))
  · rw [he, he', he'']
    exact append_lt_left _ (append_lt_left _ (append_lt_left _
      (List.cons_lt_cons_iff.mpr (.inr ⟨rfl, field_lt h (by omega) _ _⟩))))
  · rw [he, he', he'', he₃]
    exact append_lt_left _ (append_lt_left _ (append_lt_left _
      (List.cons_lt_cons_iff.mpr (.inr ⟨rfl, append_lt_left _ (field_lt h (by omega) _ _)⟩))))
  · rw [he, he', he'', he₃, he₄]
    have hsecond : padded 2 t.second < padded 2 t'.second := by
      simpa using field_lt h (by omega) [] []
    exact append_lt_left _ (append_lt_left _ (append_lt_left _
      (List.cons_lt_cons_iff.mpr (.inr ⟨rfl, append_lt_left _ (append_lt_left _ hsecond)⟩))))

theorem snapshotName_lt {t t' : Datetime} (h : t.before t') : snapshotName t < snapshotName t' := by
  have hlen : t.stamp.length = t'.stamp.length := by simp [Datetime.stamp, length_padded]
  rw [String.lt_iff_toList_lt]
  simp only [snapshotName, String.toList_append, String.toList_ofList, List.append_assoc]
  exact append_lt_left _ (append_lt_append hlen (Datetime.stamp_lt h) _ _)

/-- The directory lists its snapshots in the order of their names. -/
structure Dir.Ordered (dir : Dir) : Prop where
  sorted : dir.Pairwise fun file file' => file.1 < file'.1
  names : ∀ file ∈ dir, ∃ t, file.1 = snapshotName t

section Run
variable {dir : Dir} {keep : Int} {now : Datetime}

theorem Dir.Ordered.byName (h : dir.Ordered) : byName dir = dir := by
  apply List.Pairwise.insertionSort_eq
  exact h.sorted.imp fun hlt => le_of_lt hlt

theorem Dir.Ordered.nodup (h : dir.Ordered) : (dir.map Prod.fst).Nodup := by
  rw [List.Nodup, List.pairwise_map]
  exact h.sorted.imp fun hlt => ne_of_lt hlt

theorem Dir.Ordered.append (h : dir.Ordered) (hnew : ∀ file ∈ dir, file.1 < snapshotName now)
    (complete : Bool) : Dir.Ordered (dir ++ [(snapshotName now, complete)]) where
  sorted := by
    rw [List.pairwise_append]
    refine ⟨h.sorted, List.pairwise_singleton _ _, fun file hfile new hmem => ?_⟩
    rw [List.mem_singleton.mp hmem]
    exact hnew file hfile
  names := by
    intro file hfile
    rcases List.mem_append.mp hfile with hold | hmem
    · exact h.names file hold
    · rw [List.mem_singleton.mp hmem]
      exact ⟨now, rfl⟩

theorem Dir.Ordered.sublist {dir' : Dir} (h : dir.Ordered) (hsub : dir'.Sublist dir) : dir'.Ordered where
  sorted := h.sorted.sublist hsub
  names file hfile := h.names file (hsub.subset hfile)

theorem put_new (hnew : ∀ file ∈ dir, file.1 < snapshotName now) (complete : Bool) :
    dir.put (snapshotName now) complete = dir ++ [(snapshotName now, complete)] := by
  apply Items.insertWith_of_not_mem
  intro hmem
  obtain ⟨file, hfile, hname⟩ := List.mem_map.mp hmem
  exact absurd hname (ne_of_lt (hnew file hfile))

/-- Every file is a snapshot. -/
theorem Dir.Ordered.glob (h : dir.Ordered) : glob dir = dir.map Prod.fst := by
  rw [Storage.glob, List.filter_eq_self]
  intro name hname
  obtain ⟨file, hfile, rfl⟩ := List.mem_map.mp hname
  obtain ⟨t, ht⟩ := h.names file hfile
  have hlist : file.1.toList = "vmpanel-".toList ++ (t.stamp ++ ".db".toList) := by
    rw [ht]
    simp [snapshotName, String.toList_append]
  have hdrop : file.1.toList.drop 8 = t.stamp ++ ".db".toList := by
    rw [hlist]
    rfl
  rw [Bool.and_eq_true, List.isPrefixOf_iff_prefix, List.isSuffixOf_iff_suffix, hdrop]
  exact ⟨hlist ▸ List.prefix_append _ _, List.suffix_append _ _⟩

/-- Of files with distinct names, those whose names are not among the first `n` are the others. -/
theorem filter_not_mem_take {n : Nat} (h : (dir.map Prod.fst).Nodup) :
    (dir.filter fun file => file.1 ∉ (dir.map Prod.fst).take n) = dir.drop n := by
  have hdisj : ∀ file ∈ dir.drop n, file.1 ∉ (dir.take n).map Prod.fst := by
    rw [← List.take_append_drop n dir, List.map_append, List.nodup_append] at h
    intro file hfile hmem
    exact h.2.2 file.1 hmem file.1 (List.mem_map_of_mem hfile) rfl
  conv_lhs => rw [← List.take_append_drop n dir]
  rw [List.filter_append, ← List.map_take, List.take_append_drop]
  have hfirst : (dir.take n).filter (fun file => file.1 ∉ (dir.take n).map Prod.fst) = [] := by
    rw [List.filter_eq_nil_iff]
    intro file hfile
    exact fun hnot => of_decide_eq_true hnot (List.mem_map_of_mem hfile)
  have hlast : (dir.drop n).filter (fun file => file.1 ∉ (dir.take n).map Prod.fst) =
      dir.drop n := by
    rw [List.filter_eq_self]
    intro file hfile
    exact decide_eq_true (hdisj file hfile)
  rw [hfirst, hlast]
  rfl

theorem runBackup_failed (hnew : ∀ file ∈ dir, file.1 < snapshotName now) (left : Bool) :
    (runBackup dir now keep (.failed left)).2 =
      dir ++ if left then [(snapshotName now, false)] else [] := by
  cases left with
  | false => simp [runBackup]
  | true => simp [runBackup, put_new hnew]

/-- A successful run adds its snapshot and leaves the newest `keep` files. -/
theorem runBackup_done (hkeep : 1 ≤ keep) (h : dir.Ordered)
    (hnew : ∀ file ∈ dir, file.1 < snapshotName now) :
    (runBackup dir now keep .done).2 =
      dir.drop (dir.length + 1 - keep.toNat) ++ [(snapshotName now, true)] := by
  have hall := h.append hnew true
  have hsorted : (glob (dir ++ [(snapshotName now, true)])).insertionSort (· ≤ ·) =
      (dir ++ [(snapshotName now, true)]).map Prod.fst := by
    rw [hall.glob]
    apply List.Pairwise.insertionSort_eq
    rw [List.pairwise_map]
    exact hall.sorted.imp fun hlt => le_of_lt hlt
  simp only [runBackup, put_new hnew, hsorted, outdated, if_pos (show 0 < keep by omega)]
  rw [filter_not_mem_take hall.nodup, List.length_map, List.length_append, List.length_singleton]
  exact List.drop_append_of_le_length (by omega)

end Run

def completeNames (dir : Dir) : List String := (dir.filter Prod.snd).map Prod.fst

theorem length_completeNames (dir : Dir) : (completeNames dir).length = dir.countP Prod.snd := by
  rw [completeNames, List.length_map, List.countP_eq_length_filter]

theorem mem_completeNames {dir : Dir} {name : String} :
    name ∈ completeNames dir ↔ (name, true) ∈ dir := by
  simp [completeNames]

theorem completeNames_append (dir dir' : Dir) :
    completeNames (dir ++ dir') = completeNames dir ++ completeNames dir' := by
  simp [completeNames]

/-- The directory after these runs: its complete files are the newest snapshots. -/
structure Kept (runs : List BackupRun) (dir : Dir) : Prop where
  ordered : dir.Ordered
  names : ∀ file ∈ dir, ∃ run ∈ runs, file.1 = snapshotName run.now
  complete : completeNames dir <:+ successes runs

theorem successes_append (done : List BackupRun) (run : BackupRun) : successes (done ++ [run]) =
    successes done ++ if run.copied = .done then [snapshotName run.now] else [] := by
  rw [successes, successes, List.filter_append, List.map_append]
  congr 1
  by_cases h : run.copied = .done <;> simp [h]

theorem backups_append (keep : Int) (done : List BackupRun) (run : BackupRun) :
    backups keep (done ++ [run]) = (runBackup (backups keep done) run.now keep run.copied).2 := by
  simp [backups]

section Runs
variable {keep : Int} {done runs : List BackupRun} {run : BackupRun} {dir : Dir}

theorem Kept.new (h : Kept done dir) (hlater : ∀ r ∈ done, r.now.before run.now) :
    ∀ file ∈ dir, file.1 < snapshotName run.now := by
  intro file hfile
  obtain ⟨r, hr, hname⟩ := h.names file hfile
  rw [hname]
  exact snapshotName_lt (hlater r hr)

theorem Kept.step (h : Kept done dir) (hkeep : 1 ≤ keep)
    (hlater : ∀ r ∈ done, r.now.before run.now) :
    Kept (done ++ [run]) (runBackup dir run.now keep run.copied).2 := by
  have hnew := h.new hlater
  have hnames : ∀ file ∈ dir, ∃ r ∈ done ++ [run], file.1 = snapshotName r.now := by
    intro file hfile
    obtain ⟨r, hr, hname⟩ := h.names file hfile
    exact ⟨r, List.mem_append_left _ hr, hname⟩
  have hself : ∃ r ∈ done ++ [run], snapshotName run.now = snapshotName r.now :=
    ⟨run, List.mem_append_right _ List.mem_cons_self, rfl⟩
  cases hcopied : run.copied with
  | failed left =>
    rw [runBackup_failed hnew]
    have hsuccesses : successes (done ++ [run]) = successes done := by
      simp [successes_append, hcopied]
    cases left with
    | false =>
      rw [if_neg (by simp), List.append_nil]
      exact ⟨h.ordered, hnames, hsuccesses ▸ h.complete⟩
    | true =>
      rw [if_pos rfl]
      refine ⟨h.ordered.append hnew false, fun file hfile => ?_, ?_⟩
      · rcases List.mem_append.mp hfile with hold | hmem
        · exact hnames file hold
        · rw [List.mem_singleton.mp hmem]
          exact hself
      · rw [hsuccesses, completeNames_append]
        simpa [completeNames] using h.complete
  | done =>
    rw [runBackup_done hkeep h.ordered hnew]
    have hsub : (dir.drop (dir.length + 1 - keep.toNat)).Sublist dir := List.drop_sublist _ _
    have hkept : Dir.Ordered (dir.drop (dir.length + 1 - keep.toNat)) := h.ordered.sublist hsub
    refine ⟨hkept.append (fun file hfile => hnew file (hsub.subset hfile)) true,
      fun file hfile => ?_, ?_⟩
    · rcases List.mem_append.mp hfile with hold | hmem
      · exact hnames file (hsub.subset hold)
      · rw [List.mem_singleton.mp hmem]
        exact hself
    · have hdrop : completeNames (dir.drop (dir.length + 1 - keep.toNat)) <:+ completeNames dir := by
        conv_rhs => rw [← List.take_append_drop (dir.length + 1 - keep.toNat) dir]
        rw [completeNames_append]
        exact List.suffix_append _ _
      rw [completeNames_append, successes_append, if_pos hcopied]
      exact List.suffix_append_inj_of_length_eq rfl |>.mpr ⟨hdrop.trans h.complete, rfl⟩

theorem successes_nodup (hruns : runs.Pairwise fun r r' => r.now.before r'.now) :
    (successes runs).Nodup := by
  rw [successes, List.Nodup, List.pairwise_map]
  exact (hruns.sublist List.filter_sublist).imp fun hlt => ne_of_lt (snapshotName_lt hlt)

/-- The newest `keep` snapshots are there when there are as many complete files. -/
theorem Kept.retained_iff (h : Kept runs (backups keep runs))
    (hruns : runs.Pairwise fun r r' => r.now.before r'.now) : Retained keep runs ↔
      min keep.toNat (successes runs).length ≤ (backups keep runs).countP Prod.snd := by
  rw [← length_completeNames]
  have hlen : ((successes runs).drop ((successes runs).length - keep.toNat)).length =
      min keep.toNat (successes runs).length := by
    rw [List.length_drop]
    omega
  have hsuffix := List.drop_suffix ((successes runs).length - keep.toNat) (successes runs)
  rw [← hlen]
  constructor
  · intro hret
    have hnodup := (successes_nodup hruns).sublist hsuffix.sublist
    have hsub : (successes runs).drop ((successes runs).length - keep.toNat) ⊆
        completeNames (backups keep runs) := fun name hname => mem_completeNames.mpr (hret name hname)
    exact (List.subperm_of_subset hnodup hsub).length_le
  · intro hle name hname
    have hsub := List.suffix_of_suffix_length_le hsuffix h.complete hle
    exact mem_completeNames.mp (hsub.subset hname)

/-- After a successful run the newest snapshots are there exactly if no complete file has had to go
while an incomplete one stayed. -/
theorem Kept.retained_step (h : Kept done (backups keep done)) (hkeep : 1 ≤ keep)
    (hruns : (done ++ [run]).Pairwise fun r r' => r.now.before r'.now) (hcopied : run.copied = .done)
    (hret : Retained keep done) :
    Retained keep (done ++ [run]) ↔ CompleteStay keep (backups keep done) := by
  have hparts := List.pairwise_append.mp hruns
  have hlater : ∀ r ∈ done, r.now.before run.now := fun r hr => hparts.2.2 r hr run (by simp)
  have hnext : Kept (done ++ [run]) (backups keep (done ++ [run])) := by
    rw [backups_append]
    exact h.step hkeep hlater
  have hbefore := (h.retained_iff hparts.1).mp hret
  have hmost := h.complete.length_le
  rw [length_completeNames] at hmost
  rw [hnext.retained_iff hruns, backups_append, hcopied,
    runBackup_done hkeep h.ordered (h.new hlater), successes_append, if_pos hcopied, CompleteStay,
    removed, kept, h.ordered.byName]
  generalize backups keep done = dir at *
  have hsplit : dir.countP Prod.snd = (dir.take (dir.length + 1 - keep.toNat)).countP Prod.snd +
      (dir.drop (dir.length + 1 - keep.toNat)).countP Prod.snd := by
    rw [← List.countP_append, List.take_append_drop]
  have hgone : (∃ file ∈ dir.take (dir.length + 1 - keep.toNat), file.2 = true) ↔
      0 < (dir.take (dir.length + 1 - keep.toNat)).countP Prod.snd := List.countP_pos_iff.symm
  have hstay : (∀ file ∈ dir.drop (dir.length + 1 - keep.toNat), file.2 = true) ↔
      (dir.drop (dir.length + 1 - keep.toNat)).countP Prod.snd =
        (dir.drop (dir.length + 1 - keep.toNat)).length := List.countP_eq_length.symm
  have htake := List.countP_le_length (p := Prod.snd) (l := dir.take (dir.length + 1 - keep.toNat))
  have hdrop := List.countP_le_length (p := Prod.snd) (l := dir.drop (dir.length + 1 - keep.toNat))
  rw [hgone, hstay, List.countP_append, List.length_append, List.length_singleton,
    List.countP_singleton, if_pos rfl]
  rw [List.length_take] at htake
  rw [List.length_drop] at hdrop ⊢
  omega

/-- A failed run takes no snapshot away. -/
theorem Kept.retained_failed (h : Kept done (backups keep done))
    (hlater : ∀ r ∈ done, r.now.before run.now) (hcopied : run.copied ≠ .done)
    (hret : Retained keep done) : Retained keep (done ++ [run]) := by
  have hsuccesses : successes (done ++ [run]) = successes done := by
    simp [successes_append, hcopied]
  intro name hname
  rw [hsuccesses] at hname
  rw [backups_append]
  cases hc : run.copied with
  | done => exact absurd hc hcopied
  | failed left =>
    rw [runBackup_failed (h.new hlater)]
    exact List.mem_append_left _ (hret name hname)

theorem kept_prefix (hkeep : 1 ≤ keep) (hruns : runs.Pairwise fun r r' => r.now.before r'.now) :
    Kept runs (backups keep runs) := by
  induction runs using List.reverseRecOn with
  | nil => exact ⟨⟨.nil, by simp [backups]⟩, by simp [backups], List.suffix_refl _⟩
  | append_singleton done run ih =>
    have hparts := List.pairwise_append.mp hruns
    rw [backups_append]
    exact (ih hparts.1).step hkeep fun r hr => hparts.2.2 r hr run (by simp)

end Runs

/-- Rotation keeps the newest complete snapshots exactly where no successful run finds an incomplete
file among those it keeps and a complete one among those it removes. -/
theorem backups_retained_iff {keep : Int} (hkeep : 1 ≤ keep) {runs : List BackupRun}
    (hruns : runs.Pairwise fun r r' => r.now.before r'.now) : RetentionLaw keep runs ↔
      ∀ done run, done ++ [run] <+: runs → run.copied = .done →
        CompleteStay keep (backups keep done) := by
  have hsorted : ∀ {done}, done <+: runs → done.Pairwise fun r r' => r.now.before r'.now :=
    fun h => hruns.sublist h.sublist
  have hshorter : ∀ {done : List BackupRun} {run}, done ++ [run] <+: runs → done <+: runs :=
    fun h => (List.prefix_append _ _).trans h
  constructor
  · rintro ⟨hret, _⟩ done run hdone hcopied
    have hkept := kept_prefix hkeep (hsorted (hshorter hdone))
    exact (hkept.retained_step hkeep (hsorted hdone) hcopied (hret done (hshorter hdone))).mp
      (hret _ hdone)
  · intro hstay
    refine ⟨fun done hdone => ?_, fun done run hdone hcopied => ?_⟩
    · induction done using List.reverseRecOn with
      | nil => simp [Retained, successes]
      | append_singleton done run ih =>
        have hret := ih (hshorter hdone)
        have hkept := kept_prefix hkeep (hsorted (hshorter hdone))
        by_cases hcopied : run.copied = .done
        · exact (hkept.retained_step hkeep (hsorted hdone) hcopied hret).mpr
            (hstay done run hdone hcopied)
        · have hlater := fun r hr => (List.pairwise_append.mp (hsorted hdone)).2.2 r hr run (by simp)
          exact hkept.retained_failed hlater hcopied hret
    · have hkept := kept_prefix hkeep (hsorted (hshorter hdone))
      have hlater := fun r hr => (List.pairwise_append.mp (hsorted hdone)).2.2 r hr run (by simp)
      have hnext := @Kept.step keep done run _ hkept hkeep hlater
      rw [backups_append, hnext.ordered.glob, List.length_map, hcopied,
        runBackup_done hkeep hkept.ordered (hkept.new hlater), List.length_append, List.length_drop,
        List.length_singleton]
      omega

/-- The first seconds of a year. -/
def instant (second : Fin 60) : Datetime where
  year := 2026
  month := 1
  day := 1
  hour := 0
  minute := 0
  second := second
  date_valid := ⟨Nat.le_of_ble_eq_true rfl, Nat.le_of_ble_eq_true rfl, Nat.le_of_ble_eq_true rfl,
    Nat.le_of_ble_eq_true rfl, Nat.le_of_ble_eq_true rfl⟩
  time_valid := ⟨Nat.le_of_ble_eq_true rfl, Nat.le_of_ble_eq_true rfl, second.isLt⟩

/-- The second of three runs fails; it may leave a file. -/
def threeRuns (left : Bool) : List BackupRun :=
  [⟨instant 0, .done⟩, ⟨instant 1, .failed left⟩, ⟨instant 2, .done⟩]

theorem threeRuns_in_order (left : Bool) :
    (threeRuns left).Pairwise fun r r' => r.now.before r'.now := by
  cases left <;> unfold threeRuns Datetime.before <;> decide

/-- Where it leaves none, the two snapshots stay. -/
theorem backups_retained_threeRuns : RetentionLaw 2 (threeRuns false) ∧
    backups 2 (threeRuns false) =
      [("vmpanel-20260101-000000.db", true), ("vmpanel-20260101-000002.db", true)] := by
  refine ⟨(backups_retained_iff (by decide) (threeRuns_in_order false)).mpr ?_, by decide +kernel⟩
  intro done run hdone hcopied
  have hstays : ∀ n ∈ [0, 2], CompleteStay 2 (backups 2 ((threeRuns false).take n)) := by
    unfold CompleteStay
    decide +kernel
  obtain ⟨rest, hrest⟩ := hdone
  have htake : done = (threeRuns false).take done.length := by
    rw [← hrest, List.append_assoc, List.take_left]
  have hrun : (threeRuns false)[done.length]? = some run := by
    rw [← hrest]
    simp
  have hindex : done.length ∈ [0, 2] := by
    generalize done.length = n at hrun
    match n with
    | 0 | 2 => simp
    | 1 =>
      cases hrun
      cases hcopied
    | n + 3 => cases hrun
  rw [htake]
  exact hstays _ hindex

/-- Where it leaves one, the third run removes the first snapshot and keeps the incomplete file. -/
theorem backups_not_retained : ¬ ∀ (keep : Int) (runs : List BackupRun), 1 ≤ keep →
    (runs.Pairwise fun r r' => r.now.before r'.now) → RetentionLaw keep runs := by
  intro h
  have hret := (h 2 (threeRuns true) (by decide) (threeRuns_in_order true)).1 _ (List.prefix_refl _)
  have hlost := hret "vmpanel-20260101-000000.db" (by decide +kernel)
  revert hlost
  decide +kernel

end Clusteration.Storage
