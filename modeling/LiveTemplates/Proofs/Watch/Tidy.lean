import LiveTemplates.Watch.FolderWatcher

/-!
# Watchers over time

What creating, starting and ending watchers does to the watchers and their debouncers. Each watcher
keeps a debouncer of its own (`Tidy`). Whoever starts watchers keeps a list of those that it has to
end: all others that were told to start are disposed of (`RetiredBut`). Debouncers go on by
themselves in between, but that disposes of none (`Debouncers.Continues`).
-/

namespace LiveTemplates

/-! ## Debouncers -/

namespace Debouncers

variable {d d' : Debouncers} {i : Nat}

/-- With a debouncer that was disposed of, nothing is pending. -/
def Calm (d : Debouncers) : Prop :=
  ∀ x ∈ d.all, x.disposed = true → x.pending = []

/-- The same debouncers some time later, of which none was disposed of meanwhile. -/
structure Continues (d d' : Debouncers) : Prop where
  disposed : d'.all.map Debouncer.disposed = d.all.map Debouncer.disposed
  delays : d'.all.map Debouncer.delay = d.all.map Debouncer.delay
  calm : d.Calm → d'.Calm

theorem continues_of_all (h : d'.all = d.all) : d.Continues d' :=
  ⟨by rw [h], by rw [h], fun hcalm => by rw [Calm, h]; exact hcalm⟩

theorem Continues.trans {d'' : Debouncers} (h : d.Continues d') (h' : d'.Continues d'') :
    d.Continues d'' :=
  ⟨h'.disposed.trans h.disposed, h'.delays.trans h.delays, h'.calm ∘ h.calm⟩

theorem Calm.set {y : Debouncer} (h : d.Calm) (hy : y.disposed = true → y.pending = [])
    (hall : d'.all = d.all.set i y) : d'.Calm := by
  intro x hx hdisposed
  rw [hall] at hx
  rcases List.mem_or_eq_of_mem_set hx with hx | rfl
  · exact h x hx hdisposed
  · exact hy hdisposed

/-- What does not change of one debouncer does not change of any. -/
theorem map_set_of_eq {α : Type} (f : Debouncer → α) {x y : Debouncer} (hx : d.all[i]? = some x)
    (hall : d'.all = d.all.set i y) (hf : f y = f x) : d'.all.map f = d.all.map f := by
  have hx' : (d.all.map f)[i]? = some (f y) := by
    rw [List.getElem?_map, hx, hf]
    rfl
  obtain ⟨hi, hget⟩ := List.getElem?_eq_some_iff.mp hx'
  rw [hall, List.map_set, ← hget, List.set_getElem_self]

/-- One debouncer changes. -/
theorem continues_set {x y : Debouncer} (hx : d.all[i]? = some x) (hall : d'.all = d.all.set i y)
    (hdisposed : y.disposed = x.disposed) (hdelay : y.delay = x.delay)
    (hcalm : y.disposed = true → x.pending = [] → y.pending = []) : d.Continues d' where
  disposed := map_set_of_eq _ hx hall hdisposed
  delays := map_set_of_eq _ hx hall hdelay
  calm hd := by
    refine hd.set (fun hy => hcalm hy (hd x (List.mem_of_getElem? hx) ?_)) hall
    rwa [← hdisposed]

/-! ### What the operations do to one debouncer -/

theorem set_self {x : Debouncer} (hx : d.all[i]? = some x) : d.all.set i x = d.all := by
  obtain ⟨_, rfl⟩ := List.getElem?_eq_some_iff.mp hx
  exact List.set_getElem_self _

theorem notify_of_none (hi : d.all[i]? = none) (p : Path) : d.notify i p = d := by
  unfold notify
  rw [hi]

theorem all_notify {x : Debouncer} (hx : d.all[i]? = some x) (p : Path) :
    (d.notify i p).all = d.all.set i (x.notify p).1 := by
  unfold notify Debouncer.notify
  rw [hx]
  by_cases hdisposed : x.disposed = true
  · simp [hdisposed, set_self hx]
  · simp [hdisposed, cancel]

theorem expire_of_none {e : Expiry} (hi : d.all[e.owner]? = none) :
    d.expire e = (d, none, []) := by
  unfold expire
  rw [hi]

theorem all_expire {e : Expiry} {x : Debouncer} (hx : d.all[e.owner]? = some x) :
    (d.expire e).1.all = d.all.set e.owner (x.expire e.path e.generation).1 := by
  unfold expire Debouncer.expire
  rw [hx]
  by_cases hpending : x.generationOf? e.path = some e.generation
  · simp [hpending]
  · simp [hpending, set_self hx]

theorem flush_of_none (hi : d.all[i]? = none) : d.flush i = (d, []) := by
  unfold flush
  rw [hi]

theorem all_flush {x : Debouncer} (hx : d.all[i]? = some x) :
    (d.flush i).1.all = d.all.set i x.flush.1 := by
  unfold flush
  rw [hx]
  rfl

theorem all_dispose {x : Debouncer} (hx : d.all[i]? = some x) :
    (d.dispose i).1.all = d.all.set i x.dispose.1 := by
  unfold dispose
  rw [hx]
  rfl

theorem dispose_of_none (hi : d.all[i]? = none) : (d.dispose i).1 = d := by
  unfold dispose
  rw [hi]

/-! ### Debouncers that go on -/

theorem continues_notify (d : Debouncers) (i : Nat) (p : Path) : d.Continues (d.notify i p) := by
  cases hx : d.all[i]? with
  | none => rw [notify_of_none hx]; exact continues_of_all rfl
  | some x =>
    by_cases hdisposed : x.disposed = true
    · refine continues_of_all ?_
      rw [all_notify hx, Debouncer.notify, if_pos hdisposed, set_self hx]
    · exact continues_set hx (all_notify hx p) (by simp [Debouncer.notify, hdisposed])
        (by simp [Debouncer.notify, hdisposed]) fun h => by simp [Debouncer.notify, hdisposed] at h

theorem continues_expire (d : Debouncers) (e : Expiry) : d.Continues (d.expire e).1 := by
  cases hx : d.all[e.owner]? with
  | none => rw [expire_of_none hx]; exact continues_of_all rfl
  | some x =>
    refine continues_set hx (all_expire hx) ?_ ?_ ?_
    · unfold Debouncer.expire
      split <;> rfl
    · unfold Debouncer.expire
      split <;> rfl
    · intro _ hpending
      unfold Debouncer.expire
      split <;> simp [hpending]

theorem continues_flush (d : Debouncers) (i : Nat) : d.Continues (d.flush i).1 := by
  cases hx : d.all[i]? with
  | none => rw [flush_of_none hx]; exact continues_of_all rfl
  | some x => exact continues_set hx (all_flush hx) rfl rfl fun _ _ => rfl

/-- An expiry calls back only for what is pending. -/
theorem pending_of_expire {e : Expiry} {p : Path} (h : (d.expire e).2.1 = some p) :
    ∃ x, d.all[e.owner]? = some x ∧ x.pending ≠ [] := by
  unfold expire at h
  split at h
  · cases h
  · next x hx =>
    split at h
    · cases h
    · next y hexpire =>
      refine ⟨x, hx, fun hpending => ?_⟩
      simp [Debouncer.expire, Debouncer.generationOf?, hpending] at hexpire

/-- To settle the changes of a debouncer calls back only for what is pending. -/
theorem pending_of_flush {owner : Nat} (h : (d.flush owner).2 ≠ []) :
    ∃ x, d.all[owner]? = some x ∧ x.pending ≠ [] := by
  unfold flush at h
  split at h
  · exact absurd rfl h
  · next x hx => exact ⟨x, hx, fun hpending => h (by simp [Debouncer.flush, hpending])⟩

end Debouncers

namespace Watchers

variable {w w' : Watchers} {i j : Nat} {ws rest : List Nat}

/-- What the operations on one watcher make of some watchers. -/
inductive Moves (w : Watchers) : Watchers → Prop
  | stays : Moves w w
  | create (root : Path) (extension : String) (recursive : Bool) (ignorePatterns : List String)
      (delay : Delay) (faults : List WatchFault) :
      Moves w (w.create root extension recursive ignorePatterns delay faults)
  | start (i : Nat) : Moves w (w.start i).1
  | dispose (i : Nat) : Moves w (w.dispose i).1

/-- An event of the tree changes nothing but debouncers, and those by notices. -/
theorem dispatchTo_induction {R : Debouncers → Prop} {e : FileEvent} {observing : List Nat}
    (hnotify : ∀ {d x i p entry}, i ∈ observing → w.all[i]? = some x →
      x.filter.forward e = .ok (some (p, entry)) → R d → R (d.notify x.debouncer p))
    (hw : R w.debouncers) :
    ∃ d, R d ∧ (w.dispatchTo e observing).1 = { w with debouncers := d } := by
  induction observing generalizing w with
  | nil => exact ⟨w.debouncers, hw, rfl⟩
  | cons i rest ih =>
    have hrest : ∀ {d x j p entry}, j ∈ rest → w.all[j]? = some x →
        x.filter.forward e = .ok (some (p, entry)) → R d → R (d.notify x.debouncer p) :=
      fun hj => hnotify (List.mem_cons_of_mem _ hj)
    rw [dispatchTo]
    split
    · exact ih hrest hw
    · next x hx =>
      split
      · exact ⟨w.debouncers, hw, rfl⟩
      · exact ih hrest hw
      · next p _ hforward =>
        obtain ⟨d, hd, heq⟩ := ih (w := { w with debouncers := w.debouncers.notify x.debouncer p })
          hrest (hnotify List.mem_cons_self hx hforward hw)
        exact ⟨d, hd, heq⟩

/-! ## What is said about watchers -/

/-- Whether the debouncer at a place was disposed of, if there is one. -/
def gone? (w : Watchers) (i : Nat) : Option Bool :=
  (w.debouncers.all.map Debouncer.disposed)[i]?

/-- The delay of the debouncer at a place, if there is one. -/
def delayAt (w : Watchers) (i : Nat) : Option Delay :=
  (w.debouncers.all.map Debouncer.delay)[i]?

/-- Whether the watcher at a place waits for some milliseconds. -/
def Waits (w : Watchers) (ms : Int) (i : Nat) : Prop :=
  ∃ d, Delay.ofMilliseconds ms = .ok d ∧ w.delayAt i = some d

/-- The extension of the watcher at a place. -/
def extensionAt (w : Watchers) (i : Nat) : String :=
  (w.all[i]?.map FolderWatcher.extension).getD ""

/-- The directory of the watcher at a place, if there is one. -/
def rootAt (w : Watchers) (i : Nat) : Option Path :=
  w.all[i]?.map FolderWatcher.root

/-- Each watcher has the debouncer at its own place, and debouncers that are gone are calm. -/
structure Tidy (w : Watchers) : Prop where
  owner : ∀ {i} {x : FolderWatcher}, w.all[i]? = some x → x.debouncer = i
  length : w.debouncers.all.length = w.all.length
  calm : w.debouncers.Calm

/-- A watcher that does not run and can be started. -/
def Idle (w : Watchers) (i : Nat) : Prop :=
  ∃ x, w.all[i]? = some x ∧ x.running = false ∧ w.gone? i = some false

/-- A watcher whose observer runs and whose debouncer takes notice of changes. -/
def Watching (w : Watchers) (i : Nat) : Prop :=
  ∃ x, w.all[i]? = some x ∧ x.running = true ∧ i ∈ w.observing ∧ w.gone? i = some false

/-- All watchers that were told to start are gone, but some. -/
def RetiredBut (w : Watchers) (ws : List Nat) : Prop :=
  ∀ ⦃i⦄ ⦃x : FolderWatcher⦄, w.all[i]? = some x → x.told = true → i ∉ ws → w.gone? i = some true

theorem tidy_initial : Watchers.initial.Tidy :=
  ⟨fun h => by simp [Watchers.initial] at h, rfl, fun _ h => by cases h⟩

theorem retiredBut_initial (ws : List Nat) : Watchers.initial.RetiredBut ws :=
  fun _ _ h => by simp [Watchers.initial] at h

/-- The debouncer at a place. -/
theorem exists_of_gone {b : Bool} (h : w.gone? i = some b) :
    ∃ d, w.debouncers.all[i]? = some d ∧ d.disposed = b := by
  rw [gone?, List.getElem?_map] at h
  exact Option.map_eq_some_iff.mp h

/-- The same watchers some time later: nothing but debouncers changed, and none is gone since. -/
structure Continues (w w' : Watchers) : Prop where
  all : w'.all = w.all
  observing : w'.observing = w.observing
  debouncers : w.debouncers.Continues w'.debouncers

/-- The same watchers with debouncers that went on. -/
theorem continues_with {d : Debouncers} (hd : w.debouncers.Continues d) :
    w.Continues { w with debouncers := d } :=
  ⟨rfl, rfl, hd⟩

namespace Continues

theorem refl (w : Watchers) : Continues w w :=
  ⟨rfl, rfl, Debouncers.continues_of_all rfl⟩

theorem trans {w'' : Watchers} (h : w.Continues w') (h' : w'.Continues w'') : w.Continues w'' :=
  ⟨h'.all.trans h.all, h'.observing.trans h.observing, h.debouncers.trans h'.debouncers⟩

variable (h : w.Continues w')
include h

theorem gone_eq (i : Nat) : w'.gone? i = w.gone? i := by
  rw [gone?, h.debouncers.disposed, gone?]

theorem waits {ms : Int} (hi : w.Waits ms i) : w'.Waits ms i := by
  obtain ⟨d, hd, hdelay⟩ := hi
  refine ⟨d, hd, ?_⟩
  rw [delayAt, h.debouncers.delays]
  exact hdelay

theorem extensionAt_eq (i : Nat) : w'.extensionAt i = w.extensionAt i := by
  rw [extensionAt, h.all, extensionAt]

theorem tidy (hw : w.Tidy) : w'.Tidy where
  owner hx := hw.owner (h.all ▸ hx)
  length := by
    rw [h.all, ← hw.length]
    simpa using congrArg List.length h.debouncers.disposed
  calm := h.debouncers.calm hw.calm

theorem idle (hi : w.Idle i) : w'.Idle i := by
  obtain ⟨x, hx, hrunning, hgone⟩ := hi
  exact ⟨x, h.all ▸ hx, hrunning, h.gone_eq i ▸ hgone⟩

theorem watching (hi : w.Watching i) : w'.Watching i := by
  obtain ⟨x, hx, hrunning, hobserving, hgone⟩ := hi
  exact ⟨x, h.all ▸ hx, hrunning, h.observing ▸ hobserving, h.gone_eq i ▸ hgone⟩

theorem retiredBut (hw : w.RetiredBut ws) : w'.RetiredBut ws := by
  intro i x hx htold hi
  rw [h.gone_eq]
  exact hw (h.all ▸ hx) htold hi

end Continues

/-! ## Creating -/

section Create

variable (w) (root : Path) (extension : String) (recursive : Bool) (ignorePatterns : List String)
  (delay : Delay) (faults : List WatchFault)

/-- A new watcher comes after the others. -/
theorem create_eq : ∃ x : FolderWatcher, x.extension = extension ∧
    x.debouncer = w.debouncers.all.length ∧ x.running = false ∧ x.told = false ∧
    (w.create root extension recursive ignorePatterns delay faults).all = w.all ++ [x] :=
  ⟨_, rfl, rfl, rfl, rfl, rfl⟩

theorem debouncers_create :
    (w.create root extension recursive ignorePatterns delay faults).debouncers.all
      = w.debouncers.all ++ [.initial delay extension] := rfl

end Create

/-- What stands in a longer list was there before, or is new. -/
theorem getElem?_concat {α : Type} {l : List α} {x y : α} (h : (l ++ [x])[i]? = some y) :
    l[i]? = some y ∨ i = l.length ∧ y = x := by
  by_cases hi : i < l.length
  · rw [List.getElem?_append_left hi] at h
    exact Or.inl h
  · rw [List.getElem?_append_right (by omega), List.getElem?_singleton] at h
    split at h
    · exact Or.inr ⟨by omega, (Option.some.inj h).symm⟩
    · cases h

section Created

variable {root : Path} {extension : String} {recursive : Bool} {ignorePatterns : List String}
  {delay : Delay} {faults : List WatchFault}

theorem lt_of_gone {b : Bool} (h : w.gone? i = some b) : i < w.debouncers.all.length := by
  obtain ⟨hi, _⟩ := List.getElem?_eq_some_iff.mp h
  simpa using hi

theorem gone_create {b : Bool} (h : w.gone? i = some b) :
    (w.create root extension recursive ignorePatterns delay faults).gone? i = some b := by
  rw [gone?, debouncers_create, List.map_append,
    List.getElem?_append_left (by simpa using lt_of_gone h)]
  exact h

theorem Waits.create {ms : Int} (h : w.Waits ms i) :
    (w.create root extension recursive ignorePatterns delay faults).Waits ms i := by
  obtain ⟨d, hd, hdelay⟩ := h
  refine ⟨d, hd, ?_⟩
  rw [delayAt, debouncers_create, List.map_append,
    List.getElem?_append_left (List.getElem?_eq_some_iff.mp hdelay).1]
  exact hdelay

theorem waits_create {ms : Int} (h : w.Tidy) (hdelay : Delay.ofMilliseconds ms = .ok delay) :
    (w.create root extension recursive ignorePatterns delay faults).Waits ms w.all.length := by
  refine ⟨delay, hdelay, ?_⟩
  rw [delayAt, debouncers_create, List.map_append, ← h.length,
    List.getElem?_append_right (by simp)]
  simp [Debouncer.initial]

theorem Tidy.create (h : w.Tidy) :
    (w.create root extension recursive ignorePatterns delay faults).Tidy := by
  obtain ⟨x, _, hdebouncer, _, _, hall⟩ :=
    w.create_eq root extension recursive ignorePatterns delay faults
  refine ⟨fun {i y} hy => ?_, ?_, fun d hd hdisposed => ?_⟩
  · rw [hall] at hy
    rcases getElem?_concat hy with hy | ⟨rfl, rfl⟩
    · exact h.owner hy
    · rw [hdebouncer, h.length]
  · rw [hall, debouncers_create, List.length_append, List.length_append, h.length]
    rfl
  · rw [debouncers_create] at hd
    rcases List.mem_append.mp hd with hd | hd
    · exact h.calm d hd hdisposed
    · obtain rfl := List.mem_singleton.mp hd
      rfl

theorem RetiredBut.create (h : w.RetiredBut ws) :
    (w.create root extension recursive ignorePatterns delay faults).RetiredBut ws := by
  obtain ⟨x, _, _, _, htold, hall⟩ :=
    w.create_eq root extension recursive ignorePatterns delay faults
  intro i y hy hytold hi
  rw [hall] at hy
  rcases getElem?_concat hy with hy | ⟨rfl, rfl⟩
  · exact gone_create (h hy hytold hi)
  · rw [htold] at hytold
    cases hytold

theorem Idle.create (hi : w.Idle i) :
    (w.create root extension recursive ignorePatterns delay faults).Idle i := by
  obtain ⟨x, hx, hrunning, hgone⟩ := hi
  obtain ⟨_, _, _, _, _, hall⟩ :=
    w.create_eq root extension recursive ignorePatterns delay faults
  refine ⟨x, ?_, hrunning, gone_create hgone⟩
  rw [hall, List.getElem?_append_left (List.getElem?_eq_some_iff.mp hx).1, hx]

theorem idle_create (h : w.Tidy) :
    (w.create root extension recursive ignorePatterns delay faults).Idle w.all.length := by
  obtain ⟨x, _, _, hrunning, _, hall⟩ :=
    w.create_eq root extension recursive ignorePatterns delay faults
  refine ⟨x, by rw [hall]; simp, hrunning, ?_⟩
  rw [gone?, debouncers_create, ← h.length, List.map_append,
    List.getElem?_append_right (by simp)]
  simp [Debouncer.initial]

theorem extensionAt_create_of_lt (hi : i < w.all.length) :
    (w.create root extension recursive ignorePatterns delay faults).extensionAt i
      = w.extensionAt i := by
  obtain ⟨_, _, _, _, _, hall⟩ :=
    w.create_eq root extension recursive ignorePatterns delay faults
  rw [extensionAt, hall, List.getElem?_append_left hi, extensionAt]

theorem extensionAt_create :
    (w.create root extension recursive ignorePatterns delay faults).extensionAt w.all.length
      = extension := by
  obtain ⟨x, hextension, _, _, _, hall⟩ :=
    w.create_eq root extension recursive ignorePatterns delay faults
  rw [extensionAt, hall]
  simp [hextension]

theorem rootAt_create_of_lt (hi : i < w.all.length) :
    (w.create root extension recursive ignorePatterns delay faults).rootAt i = w.rootAt i := by
  obtain ⟨_, _, _, _, _, hall⟩ :=
    w.create_eq root extension recursive ignorePatterns delay faults
  rw [rootAt, hall, List.getElem?_append_left hi, rootAt]

theorem rootAt_create :
    (w.create root extension recursive ignorePatterns delay faults).rootAt w.all.length
      = some root := by
  simp [rootAt, create]

end Created

/-! ## Starting and ending -/

/-- The same watcher some time later. -/
structure Remains (x y : FolderWatcher) : Prop where
  root : y.root = x.root
  extension : y.extension = x.extension
  ignorePatterns : y.ignorePatterns = x.ignorePatterns
  debouncer : y.debouncer = x.debouncer

/-- What does not change of one watcher does not change of any. -/
theorem map_getElem?_set {α : Type} (f : FolderWatcher → α) {x y : FolderWatcher}
    (hx : w.all[i]? = some x) (hy : f y = f x) (hall : w'.all = w.all.set i y) (j : Nat) :
    w'.all[j]?.map f = w.all[j]?.map f := by
  rw [hall, List.getElem?_set]
  split
  · next hij =>
    obtain ⟨hi, _⟩ := List.getElem?_eq_some_iff.mp hx
    rw [if_pos hi, ← hij, hx, Option.map_some, Option.map_some, hy]
  · rfl

theorem extensionAt_set {x y : FolderWatcher} (hx : w.all[i]? = some x) (hy : Remains x y)
    (hall : w'.all = w.all.set i y) (j : Nat) : w'.extensionAt j = w.extensionAt j := by
  rw [extensionAt, map_getElem?_set FolderWatcher.extension hx hy.extension hall, extensionAt]

theorem rootAt_set {x y : FolderWatcher} (hx : w.all[i]? = some x) (hy : Remains x y)
    (hall : w'.all = w.all.set i y) (j : Nat) : w'.rootAt j = w.rootAt j :=
  map_getElem?_set FolderWatcher.root hx hy.root hall j

theorem Tidy.set {x y : FolderWatcher} (h : w.Tidy) (hx : w.all[i]? = some x) (hy : Remains x y)
    (hall : w'.all = w.all.set i y)
    (hlength : w'.debouncers.all.length = w.debouncers.all.length) (hcalm : w'.debouncers.Calm) :
    w'.Tidy := by
  refine ⟨fun {j z} hz => ?_, ?_, hcalm⟩
  · rw [hall, List.getElem?_set] at hz
    split at hz
    · next hij =>
      split at hz
      · cases hz
        rw [hy.debouncer, h.owner hx, hij]
      · cases hz
    · exact h.owner hz
  · rw [hlength, h.length, hall, List.length_set]

/-- What starting a watcher does. -/
theorem start_eq {x : FolderWatcher} (hx : w.all[i]? = some x) : ∃ y, Remains x y ∧
    (w.start i).1.all = w.all.set i y ∧ (w.start i).1.debouncers = w.debouncers ∧
    w.observing ⊆ (w.start i).1.observing ∧ (x.running = false →
      ∀ log, (w.start i).2 = .ok log → y.running = true ∧ i ∈ (w.start i).1.observing) := by
  unfold start
  rw [hx]
  dsimp only
  split
  · next hrunning =>
    refine ⟨x, ⟨rfl, rfl, rfl, rfl⟩, ?_, rfl, List.Subset.refl _, fun h => ?_⟩
    · obtain ⟨_, rfl⟩ := List.getElem?_eq_some_iff.mp hx
      rw [List.set_getElem_self]
    · rw [hrunning] at h
      cases h
  · split
    · exact ⟨{ x with hasObserver := true, told := true }, ⟨rfl, rfl, rfl, rfl⟩, rfl, rfl,
        List.Subset.refl _, fun _ _ h => by cases h⟩
    · exact ⟨{ x with hasObserver := true, running := true, told := true },
        ⟨rfl, rfl, rfl, rfl⟩, rfl, rfl,
        List.subset_append_left _ _, fun _ _ _ => ⟨rfl, by simp⟩⟩

theorem start_of_none (hi : w.all[i]? = none) : (w.start i).1 = w := by
  unfold start
  rw [hi]

theorem debouncers_start (w : Watchers) (i : Nat) : (w.start i).1.debouncers = w.debouncers := by
  cases hx : w.all[i]? with
  | none => rw [start_of_none hx]
  | some x =>
    obtain ⟨_, _, _, hdebouncers, _⟩ := start_eq hx
    exact hdebouncers

theorem gone_start (w : Watchers) (i j : Nat) : (w.start i).1.gone? j = w.gone? j := by
  rw [gone?, debouncers_start, gone?]

theorem Waits.start {ms : Int} (hj : w.Waits ms j) (i : Nat) : (w.start i).1.Waits ms j := by
  obtain ⟨d, hd, hdelay⟩ := hj
  refine ⟨d, hd, ?_⟩
  rw [delayAt, debouncers_start]
  exact hdelay

theorem Tidy.start (h : w.Tidy) (i : Nat) : (w.start i).1.Tidy := by
  cases hx : w.all[i]? with
  | none => exact (start_of_none hx).symm ▸ h
  | some x =>
    obtain ⟨y, hy, hall, hdebouncers, _⟩ := start_eq hx
    exact h.set hx hy hall (by rw [hdebouncers]) (hdebouncers ▸ h.calm)

theorem rootAt_start (w : Watchers) (i j : Nat) : (w.start i).1.rootAt j = w.rootAt j := by
  cases hx : w.all[i]? with
  | none => rw [start_of_none hx]
  | some x =>
    obtain ⟨y, hy, hall, _⟩ := start_eq hx
    exact rootAt_set hx hy hall j

theorem extensionAt_start (w : Watchers) (i j : Nat) :
    (w.start i).1.extensionAt j = w.extensionAt j := by
  cases hx : w.all[i]? with
  | none => rw [start_of_none hx]
  | some x =>
    obtain ⟨y, hy, hall, _⟩ := start_eq hx
    exact extensionAt_set hx hy hall j

/-- Starting a watcher leaves the others as they are. -/
theorem getElem?_start_of_ne (w : Watchers) {i j : Nat} (hne : i ≠ j) :
    (w.start i).1.all[j]? = w.all[j]? := by
  cases hx : w.all[i]? with
  | none => rw [start_of_none hx]
  | some x =>
    obtain ⟨y, _, hall, _⟩ := start_eq hx
    rw [hall, List.getElem?_set_ne hne]

theorem RetiredBut.start (h : w.RetiredBut ws) (hmem : i ∈ ws) :
    (w.start i).1.RetiredBut ws := by
  intro j z hz htold hj
  have hne : i ≠ j := by
    rintro rfl
    exact hj hmem
  rw [gone_start]
  exact h (w.getElem?_start_of_ne hne ▸ hz) htold hj

theorem Idle.start (hj : w.Idle j) (hne : i ≠ j) : (w.start i).1.Idle j := by
  obtain ⟨z, hz, hrunning, hgone⟩ := hj
  exact ⟨z, (w.getElem?_start_of_ne hne).trans hz, hrunning, (gone_start w i j).trans hgone⟩

theorem Watching.start (hj : w.Watching j) (hne : i ≠ j) : (w.start i).1.Watching j := by
  obtain ⟨z, hz, hrunning, hmem, hgone⟩ := hj
  refine ⟨z, (w.getElem?_start_of_ne hne).trans hz, hrunning, ?_, (gone_start w i j).trans hgone⟩
  cases hx : w.all[i]? with
  | none => rwa [start_of_none hx]
  | some x =>
    obtain ⟨_, _, _, _, hobserving, _⟩ := start_eq hx
    exact hobserving hmem

/-- An idle watcher that starts is watching. -/
theorem Idle.watching_start (hi : w.Idle i) {log : List Log.Entry}
    (hok : (w.start i).2 = .ok log) : (w.start i).1.Watching i := by
  obtain ⟨x, hx, hrunning, hgone⟩ := hi
  obtain ⟨y, _, hall, _, _, hstarted⟩ := start_eq hx
  obtain ⟨hrunning', hmem⟩ := hstarted hrunning log hok
  refine ⟨y, ?_, hrunning', hmem, (gone_start w i i).trans hgone⟩
  rw [hall, List.getElem?_set_self (List.getElem?_eq_some_iff.mp hx).1]

/-- What ending a watcher does. -/
theorem dispose_eq {x : FolderWatcher} (hx : w.all[i]? = some x) :
    ∃ y, Remains x y ∧ y.told = x.told ∧ (w.dispose i).1.all = w.all.set i y ∧
      (w.dispose i).1.debouncers = (w.debouncers.dispose x.debouncer).1 := by
  unfold dispose
  rw [hx]
  dsimp only
  split
  · refine ⟨x, ⟨rfl, rfl, rfl, rfl⟩, rfl, ?_, rfl⟩
    obtain ⟨_, rfl⟩ := List.getElem?_eq_some_iff.mp hx
    rw [List.set_getElem_self]
  · exact ⟨{ x with hasObserver := false, running := false }, ⟨rfl, rfl, rfl, rfl⟩, rfl, rfl, rfl⟩

theorem dispose_of_none (hi : w.all[i]? = none) : (w.dispose i).1 = w := by
  unfold dispose
  rw [hi]

/-- The debouncers after the end of a watcher. -/
theorem debouncers_dispose (h : w.Tidy) {x : FolderWatcher} (hx : w.all[i]? = some x) :
    ∃ d, w.debouncers.all[i]? = some d ∧
      (w.dispose i).1.debouncers.all = w.debouncers.all.set i d.dispose.1 := by
  obtain ⟨_, _, _, _, hdebouncers⟩ := dispose_eq hx
  have hi : i < w.debouncers.all.length := h.length ▸ (List.getElem?_eq_some_iff.mp hx).1
  refine ⟨w.debouncers.all[i], List.getElem?_eq_getElem hi, ?_⟩
  rw [hdebouncers, h.owner hx, Debouncers.all_dispose (List.getElem?_eq_getElem hi)]

theorem Tidy.dispose (h : w.Tidy) (i : Nat) : (w.dispose i).1.Tidy := by
  cases hx : w.all[i]? with
  | none => exact (dispose_of_none hx).symm ▸ h
  | some x =>
    obtain ⟨y, hy, _, hall, _⟩ := dispose_eq hx
    obtain ⟨d, hd, hdebouncers⟩ := debouncers_dispose h hx
    refine h.set hx hy hall (by rw [hdebouncers, List.length_set]) ?_
    exact h.calm.set (fun _ => rfl) hdebouncers

theorem gone_dispose (h : w.Tidy) {x : FolderWatcher} (hx : w.all[i]? = some x) :
    (w.dispose i).1.gone? i = some true := by
  obtain ⟨d, hd, hdebouncers⟩ := debouncers_dispose h hx
  rw [gone?, hdebouncers, List.getElem?_map,
    List.getElem?_set_self (List.getElem?_eq_some_iff.mp hd).1]
  rfl

/-- What is gone stays gone when a watcher ends. -/
theorem gone_dispose_of_gone (h : w.Tidy) (hj : w.gone? j = some true) (i : Nat) :
    (w.dispose i).1.gone? j = some true := by
  cases hx : w.all[i]? with
  | none => exact (dispose_of_none hx).symm ▸ hj
  | some x =>
    by_cases hij : i = j
    · exact hij ▸ gone_dispose h hx
    · obtain ⟨d, hd, hdebouncers⟩ := debouncers_dispose h hx
      rw [gone?, List.getElem?_map] at hj ⊢
      rw [hdebouncers, List.getElem?_set_ne hij]
      exact hj

theorem RetiredBut.dispose (hw : w.Tidy) (h : w.RetiredBut (i :: ws)) :
    (w.dispose i).1.RetiredBut ws := by
  intro j z hz htold hj
  cases hx : w.all[i]? with
  | none =>
    rw [dispose_of_none hx] at hz ⊢
    refine h hz htold fun hmem => ?_
    rcases List.mem_cons.mp hmem with rfl | hmem
    · rw [hx] at hz
      cases hz
    · exact hj hmem
  | some x =>
    by_cases hij : i = j
    · exact hij ▸ gone_dispose hw hx
    · obtain ⟨y, hy, _, hall, _⟩ := dispose_eq hx
      rw [hall, List.getElem?_set_ne hij] at hz
      refine gone_dispose_of_gone hw (h hz htold fun hmem => ?_) i
      rcases List.mem_cons.mp hmem with rfl | hmem
      · exact hij rfl
      · exact hj hmem

theorem extensionAt_dispose (w : Watchers) (i j : Nat) :
    (w.dispose i).1.extensionAt j = w.extensionAt j := by
  cases hx : w.all[i]? with
  | none => rw [dispose_of_none hx]
  | some x =>
    obtain ⟨y, hy, _, hall, _⟩ := dispose_eq hx
    exact extensionAt_set hx hy hall j

theorem rootAt_dispose (w : Watchers) (i j : Nat) : (w.dispose i).1.rootAt j = w.rootAt j := by
  cases hx : w.all[i]? with
  | none => rw [dispose_of_none hx]
  | some x =>
    obtain ⟨y, hy, _, hall, _⟩ := dispose_eq hx
    exact rootAt_set hx hy hall j

/-! ## All of these operations -/

theorem Moves.tidy (h : w.Moves w') (hw : w.Tidy) : w'.Tidy := by
  cases h with
  | stays => exact hw
  | create => exact hw.create
  | start i => exact hw.start i
  | dispose i => exact hw.dispose i

/-- **What is gone stays gone.** -/
theorem Moves.gone (h : w.Moves w') (hw : w.Tidy) (hi : w.gone? i = some true) :
    w'.gone? i = some true := by
  cases h with
  | stays => exact hi
  | create => exact gone_create hi
  | start j => rw [gone_start, hi]
  | dispose j => exact gone_dispose_of_gone hw hi j

/-- A watcher keeps its directory. -/
theorem Moves.rootAt {root : Path} (h : w.Moves w') (hi : w.rootAt i = some root) :
    w'.rootAt i = some root := by
  cases h with
  | stays => exact hi
  | create =>
    obtain ⟨_, hx, _⟩ := Option.map_eq_some_iff.mp hi
    rw [rootAt_create_of_lt (List.getElem?_eq_some_iff.mp hx).1, hi]
  | start j => rw [rootAt_start, hi]
  | dispose j => rw [rootAt_dispose, hi]

end Watchers

end LiveTemplates
