import AnchoredMetadata.Proofs.Repository.Ledger
import AnchoredMetadata.Proofs.Repository.Lock

/-!
# Who owns a resolver

Whatever calls are made, dropped and mixed, the books of a repository stay in
order: what is published was never destroyed, not even between publishing and
the last release, and at rest every resolver that was ever made is either
published for one entity or was destroyed exactly once.
-/

namespace AnchoredMetadata.Repository

open Time

/-! ## Reading a history -/

/-- What was done outside. -/
def deeds (history : List Happening) : List Act :=
  history.filterMap fun
    | .did _ act => some act
    | _ => none

/-- The snapshots published, in order. -/
def publications (history : List Happening) : List Snapshot :=
  history.filterMap fun
    | .published _ snapshot => some snapshot
    | _ => none

/-- The snapshot published last, or the one without entries. -/
def lastPublished (history : List Happening) : Snapshot :=
  (publications history).getLast?.getD .empty

/-- At every moment of a history nothing that was published last had been destroyed. -/
def NeverExposed (history : List Happening) : Prop :=
  ∀ past, past <+: history → ∀ e ∈ (lastPublished past).entries.values,
    destructions (deeds past) e.resolver = 0

theorem deeds_append (history news : List Happening) :
    deeds (history ++ news) = deeds history ++ deeds news := List.filterMap_append

theorem publications_append (history news : List Happening) :
    publications (history ++ news) = publications history ++ publications news :=
  List.filterMap_append

theorem deeds_map_did (call : Nat) (acts : List Act) : deeds (acts.map (.did call)) = acts := by
  induction acts with
  | nil => rfl
  | cons act rest ih =>
    rw [List.map_cons]
    exact congrArg (act :: ·) ih

theorem publications_map_did (call : Nat) (acts : List Act) :
    publications (acts.map (.did call)) = [] := by
  induction acts with
  | nil => rfl
  | cons act rest ih => exact ih

theorem lastPublished_append_of_nil {history news : List Happening} (h : publications news = []) :
    lastPublished (history ++ news) = lastPublished history := by
  rw [lastPublished, publications_append, h, List.append_nil, lastPublished]

theorem lastPublished_concat (history : List Happening) (call : Nat) (snapshot : Snapshot) :
    lastPublished (history ++ [.published call snapshot]) = snapshot := by
  have hone : publications [.published call snapshot] = [snapshot] := rfl
  rw [lastPublished, publications_append, hone, List.getLast?_concat, Option.getD_some]

/-- The number of destructions in a history is the one that the system counts. -/
theorem timesDestroyed_eq (s : System) (n : Nat) :
    s.timesDestroyed n = destructions (deeds s.history) n := by
  unfold System.timesDestroyed destructions deeds
  rw [List.countP_filterMap]
  congr 1
  funext x
  cases x with
  | did call act => cases act <;> simp [Act.destroys]
  | _ => simp

/-! ## Nothing published is destroyed -/

/-- Nothing is exposed by what happens without a publication, if nothing is in the end. -/
theorem NeverExposed.append {history news : List Happening} (h : NeverExposed history)
    (hnews : publications news = [])
    (hend : ∀ e ∈ (lastPublished history).entries.values,
      destructions (deeds (history ++ news)) e.resolver = 0) :
    NeverExposed (history ++ news) := by
  intro past hpast e he
  rcases List.prefix_or_prefix_of_prefix hpast (List.prefix_append history news) with
    hbefore | ⟨part, rfl⟩
  · exact h past hbefore e he
  · obtain ⟨rest, rfl⟩ := (List.prefix_append_right_inj history).mp hpast
    have hnone : publications part = [] := by
      rw [publications_append] at hnews
      exact (List.append_eq_nil_iff.mp hnews).1
    rw [lastPublished_append_of_nil hnone] at he
    have hzero := hend e he
    rw [← List.append_assoc, deeds_append, destructions_append] at hzero
    omega

/-- Nothing is exposed by a publication of what was never destroyed. -/
theorem NeverExposed.publish {history : List Happening} (h : NeverExposed history) (call : Nat)
    {snapshot : Snapshot}
    (hnew : ∀ e ∈ snapshot.entries.values, destructions (deeds history) e.resolver = 0) :
    NeverExposed (history ++ [.published call snapshot]) := by
  intro past hpast e he
  rcases List.prefix_concat_iff.mp hpast with rfl | hpast
  · rw [lastPublished_concat] at he
    rw [deeds_append, destructions_append, hnew e he]
    rfl
  · exact h past hpast e he

/-! ## The books of a machine -/

/-- How many resolvers were made when a call is in a stage. -/
def Stage.count (r : Repository) : Stage → Nat
  | .planned p => p.made
  | _ => r.made

/-- The entries whose resolvers are in use when a call is in a stage. -/
def Stage.owned (r : Repository) : Stage → List Entry
  | .planned p => p.snapshot.entries.values ++ p.released
  | .releasing left _ _ => r.snapshot.entries.values ++ left
  | _ => r.snapshot.entries.values

/-- The books of a machine are in order. -/
structure Owned (r : Repository) (stage : Stage) (history : List Happening) : Prop where
  /-- The repository shows what was published last. -/
  published : lastPublished history = r.snapshot
  /-- Nothing published was ever destroyed while it was. -/
  unexposed : NeverExposed history
  /-- The resolvers in use are those that are held. -/
  books : Ledger (deeds history) (stage.count r) ((stage.owned r).map Entry.resolver)
  /-- What is published is in use. -/
  covered : ∀ e ∈ r.snapshot.entries.values, e.resolver ∈ (stage.owned r).map Entry.resolver

namespace Owned

variable {r : Repository} {stage next : Stage} {history news : List Happening}

/-- Books of a repository that has loaded nothing. -/
theorem create (settings : Settings) : Owned (Repository.create settings) .over [] where
  published := rfl
  unexposed := by
    intro past hpast e he
    rw [List.prefix_nil.mp hpast] at he
    exact absurd he List.not_mem_nil
  books := Ledger.empty
  covered := fun e he => absurd he List.not_mem_nil

/-- Books stay in order when nothing is published and the new stage has its books in order. -/
theorem go (h : Owned r stage history) (hnews : publications news = [])
    (hbooks : Ledger (deeds (history ++ news)) (next.count r) ((next.owned r).map Entry.resolver))
    (hcovered : ∀ e ∈ r.snapshot.entries.values,
      e.resolver ∈ (next.owned r).map Entry.resolver) :
    Owned r next (history ++ news) where
  published := (lastPublished_append_of_nil hnews).trans h.published
  unexposed := by
    refine h.unexposed.append hnews ?_
    rw [h.published]
    exact fun e he => hbooks.intact e.resolver (hcovered e he)
  books := hbooks
  covered := hcovered

/-- Books stay in order when no resolver is touched and the same are in use. -/
theorem idle (h : Owned r stage history) (hnews : publications news = [])
    (hm : ∀ n, ¬ Makes (deeds news) n) (hd : ∀ n, destructions (deeds news) n = 0)
    (hcount : next.count r = stage.count r) (howned : next.owned r = stage.owned r) :
    Owned r next (history ++ news) := by
  refine h.go hnews ?_ ?_
  · rw [deeds_append, hcount, howned]
    exact h.books.quiet _ hm hd
  · rw [howned]
    exact h.covered

/-- Books stay in order when what is in use is published in part. -/
theorem publish (h : Owned r stage history) (call : Nat) {r' : Repository}
    (hcount : next.count r' = stage.count r) (howned : next.owned r' = stage.owned r)
    (hcovered : ∀ e ∈ r'.snapshot.entries.values,
      e.resolver ∈ (stage.owned r).map Entry.resolver) :
    Owned r' next (history ++ [.published call r'.snapshot]) where
  published := lastPublished_concat ..
  unexposed := h.unexposed.publish call
    fun e he => h.books.intact e.resolver (hcovered e he)
  books := by
    rw [deeds_append, hcount, howned]
    exact h.books.quiet _ (fun n => not_makes_nil n) (fun n => destructions_nil n)
  covered := by
    rw [howned]
    exact hcovered

/-- A plan keeps the books in order. -/
theorem plan (h : Owned r .asking history) (call : Nat) (anchors : List Anchor) (makers : Makers)
    (now : Instant) :
    Owned r (.planned (r.plan makers now anchors))
      (history ++ ([.received call (.ok anchors)] ++
        (r.plan makers now anchors).acts.map (.did call))) := by
  have hbooks : Ledger (deeds history) r.made
      (r.snapshot.entries.values.map Entry.resolver) := h.books
  have hlt : ∀ e ∈ r.snapshot.entries.values, e.resolver < r.made :=
    fun e he => hbooks.lt_made e.resolver (List.mem_map_of_mem he)
  refine h.go (publications_map_did call _) ?_ ?_
  · have hdeeds : deeds ([.received call (.ok anchors)] ++
        (r.plan makers now anchors).acts.map (.did call)) = (r.plan makers now anchors).acts :=
      deeds_map_did call _
    rw [deeds_append, hdeeds]
    exact hbooks.plan makers now anchors
  · intro e he
    have hperm := perm_plan hlt makers now anchors
    exact List.mem_map_of_mem (hperm.mem_iff.mp (List.mem_append_left _ he))

/-- A release keeps the books in order. -/
theorem release {e : Entry} {left : List Entry} {report : Event} {summary : Option Summary}
    (h : Owned r (.releasing (e :: left) report summary) history) (call : Nat) :
    Owned r (.releasing left report summary)
      (history ++ (Repository.release e).map (.did call)) := by
  refine h.go (publications_map_did call _) ?_ ?_
  · rw [deeds_append, deeds_map_did]
    have hperm : ((Stage.releasing (e :: left) report summary).owned r).Perm
        (e :: (Stage.releasing left report summary).owned r) := List.perm_middle
    exact (h.books.perm (hperm.map Entry.resolver)).release
  · intro x hx
    exact List.mem_map_of_mem (List.mem_append_left left hx)

/-- Every step of the machine keeps the books in order. -/
theorem advance {past : List Happening} {m m' : Machine} {move : Move}
    (h : Owned m.repository m.stage history) (ha : Advance past m move news m') :
    Owned m'.repository m'.stage (history ++ news) := by
  cases ha with
  | call => exact h.idle rfl (by simp [deeds]) (by simp [deeds]) rfl rfl
  | leave => exact h.idle rfl (by simp [deeds]) (by simp [deeds]) rfl rfl
  | look => exact h.idle rfl (by simp [deeds]) (by simp [deeds]) rfl rfl
  | refresh => exact h.idle rfl (by simp [deeds]) (by simp [deeds]) rfl rfl
  | shutdown => exact h.idle rfl (by simp [deeds]) (by simp [deeds]) rfl rfl
  | drop => exact h.idle rfl (by simp [deeds]) (by simp [deeds]) rfl rfl
  | fail =>
    exact h.idle rfl (by simp [deeds, Act.makes]) (by simp [deeds, Act.destroys]) rfl rfl
  | plan _ call anchors makers now => exact h.plan call anchors makers now
  | publish _ call p =>
    refine h.publish call rfl rfl ?_
    intro e he
    exact List.mem_map_of_mem (List.mem_append_left p.released he)
  | clear _ call =>
    refine h.publish call rfl rfl ?_
    intro e he
    exact absurd he List.not_mem_nil
  | release _ call => exact h.release call
  | finish =>
    exact h.idle rfl (by simp [deeds, Act.makes]) (by simp [deeds, Act.destroys]) rfl
      (List.append_nil _).symm

end Owned

/-! ## Whole runs -/

namespace System

/-- The books of a system are in order, and so are its calls. -/
structure Sound (s : System) : Prop where
  /-- Only one call works, and nobody who waits has worked. -/
  orderly : s.Orderly
  /-- The books of the machine behind the system are in order. -/
  owned : Owned s.repository s.working s.history

/-- A step keeps a system sound. -/
theorem Sound.step {s t : System} (hs : s.Sound) {move : Move} (h : s.step move = some t) :
    t.Sound := by
  obtain ⟨horderly, news, hhistory, ha⟩ := step_advance hs.orderly h
  refine ⟨horderly, ?_⟩
  rw [hhistory]
  exact hs.owned.advance ha

/-- A run keeps a system sound. -/
theorem Sound.run {s t : System} (hs : s.Sound) {moves : List Move}
    (h : s.run moves = some t) : t.Sound := by
  induction moves generalizing s with
  | nil =>
    obtain rfl := Option.some.inj h
    exact hs
  | cons move rest ih =>
    rw [System.run, List.foldlM_cons] at h
    obtain ⟨u, hu, hrest⟩ := Option.bind_eq_some_iff.mp h
    exact ih (hs.step hu) hrest

/-- A system that nobody has called is sound. -/
theorem sound_create (settings : Settings) : (create settings).Sound :=
  ⟨orderly_create settings, Owned.create settings⟩

/-- A resolver of a published entry belongs to exactly one entity when none is held twice. -/
theorem existsUnique_entity {snapshot : Snapshot} {n : Nat}
    (hnodup : (snapshot.entries.values.map Entry.resolver).Nodup)
    (hn : n ∈ snapshot.entries.values.map Entry.resolver) :
    ∃! id, ∃ e, snapshot.entries.find? id = some e ∧ e.resolver = n := by
  obtain ⟨e, he, rfl⟩ := List.mem_map.mp hn
  obtain ⟨id, hid⟩ := KeyMap.mem_values_iff.mp he
  refine ⟨id, ⟨e, hid, rfl⟩, ?_⟩
  rintro other ⟨x, hx, hxe⟩
  rw [KeyMap.values, List.map_map] at hnodup
  have hsame := List.inj_on_of_nodup_map hnodup (KeyMap.find?_eq_some_iff.mp hx)
    (KeyMap.find?_eq_some_iff.mp hid) hxe
  exact congrArg Prod.fst hsame

/-- In every run, nothing published has been destroyed at any moment, and whenever no call has
the lock every resolver ever made is either published for exactly one entity and was never
destroyed, or is not published and was destroyed exactly once. -/
theorem run_ownership (settings : Settings) {moves : List Move} {s : System}
    (h : (create settings).run moves = some s) :
    (∀ past, past <+: s.history → ∀ id e,
      (lastPublished past).entries.find? id = some e →
        destructions (deeds past) e.resolver = 0) ∧
    lastPublished s.history = s.repository.snapshot ∧
    (s.isIdle = true → ∀ n, Makes (deeds s.history) n →
      ((∃! id, ∃ e, s.repository.snapshot.entries.find? id = some e ∧ e.resolver = n) ∧
          s.timesDestroyed n = 0) ∨
        ((∀ id e, s.repository.snapshot.entries.find? id = some e → e.resolver ≠ n) ∧
          s.timesDestroyed n = 1)) := by
  have hs := (sound_create settings).run h
  refine ⟨?_, hs.owned.published, ?_⟩
  · intro past hpast id e he
    exact hs.owned.unexposed past hpast e (KeyMap.mem_values_iff.mpr ⟨id, he⟩)
  · intro hidle n hmade
    have hworking : s.working = .over := by
      have hholder : s.holder = none := Option.isNone_iff_eq_none.mp hidle
      simp [working, hholder]
    have hbooks : Ledger (deeds s.history) s.repository.made
        (s.repository.snapshot.entries.values.map Entry.resolver) := by
      have hbooks := hs.owned.books
      rw [hworking] at hbooks
      exact hbooks
    rw [timesDestroyed_eq]
    by_cases hn : n ∈ s.repository.snapshot.entries.values.map Entry.resolver
    · exact Or.inl ⟨existsUnique_entity hbooks.nodup hn, hbooks.intact n hn⟩
    · refine Or.inr ⟨?_, hbooks.destroyed n ((hbooks.makes_iff n).mp hmade) hn⟩
      rintro id e he rfl
      exact hn (List.mem_map_of_mem (KeyMap.mem_values_iff.mpr ⟨id, he⟩))

/-- A refresh makes an entry, and another one replaces it while a shutdown waits and is dropped. -/
def replacement : List Move := [
  .call .refresh, .acquire 0, .receive 0 (.ok [sampleAnchor]) .willing ⟨0⟩, .publish 0, .finish 0,
  .call .refresh, .acquire 1, .call .shutdown, .receive 1 (.ok [renewedAnchor]) .willing ⟨1⟩,
  .publish 1, .release 1, .finish 1, .drop 2]

/-- The entry that is replaced is gone, and its resolver was destroyed once. -/
theorem replacement_ownership :
    ∃ s, (create sampleSettings).run replacement = some s ∧
      (∀ id e, s.repository.snapshot.entries.find? id = some e → e.resolver ≠ 0) ∧
      s.timesDestroyed 0 = 1 := by
  have hrun : ((create sampleSettings).run replacement).map
      (fun s => (s.isIdle, (deeds s.history).any (Act.makes 0), s.timesDestroyed 0)) =
        some (true, true, 1) := by decide +kernel
  obtain ⟨s, hs, hseen⟩ := Option.map_eq_some_iff.mp hrun
  simp only [Prod.mk.injEq, List.any_eq_true] at hseen
  obtain ⟨hidle, hmade, htimes⟩ := hseen
  refine ⟨s, hs, ?_⟩
  rcases (run_ownership sampleSettings hs).2.2 hidle 0 hmade with ⟨_, hzero⟩ | hgone
  · exact absurd (hzero.symm.trans htimes) (by decide)
  · exact hgone

end System

end AnchoredMetadata.Repository
