import LiveTemplates.Proofs.EventBus.Order
import LiveTemplates.Proofs.Engine.Lifecycle
import LiveTemplates.Proofs.Engine.Overwriting

/-!
# The order of an engine's events

Whatever an engine is asked for, its publications proceed as those on any bus do (`proceeds_call`).
So its listeners hear of two events in the order in which they were published exactly if they had
heard of the first when the second was published (`heard_in_order_iff`). An event that is a reaction
to another one is heard before it by those who subscribed after the listener that reacts
(`heard_out_of_order`).
-/

namespace LiveTemplates.Engine

open Relation
open Proceedings (Step)

variable {emit : Event → Engine → Engine} {depth : Nat} {s s' s'' : Engine}

/-! ## Engines proceed so -/

/-- What the minutes of an engine's bus tell of the engine. -/
def IsMinutes (s : Engine) (m : Minutes Listener) : Prop :=
  m.bus = s.bus ∧ m.publications = s.published

theorem proceeds_congr (h : Proceeds IsMinutes depth s s') (hbus : s''.bus = s'.bus)
    (hpublished : s''.published = s'.published) : Proceeds IsMinutes depth s s'' :=
  h.trans (proceeds_of_view fun _ hm => ⟨hm.1.trans hbus.symm, hm.2.trans hpublished.symm⟩)

section Publishes

variable (hemit : ∀ e s, Proceeds IsMinutes depth s (emit e s))
include hemit

/-- A call proceeds from event to event. -/
theorem proceeds_call (s : Engine) (c : Call) : Proceeds IsMinutes depth s (s.call emit c) := by
  -- Whatever a call changes by itself, the minutes do not tell of it.
  have hsteady : Steady emit (Proceeds IsMinutes depth s) :=
    ⟨fun _ _ _ h => h.trans (hemit _ _), fun _ h => proceeds_congr h rfl rfl⟩
  have hunmoved : Unmoved emit (Proceeds IsMinutes depth s) fun _ => True := {
    publishes := fun _ _ h => h.trans (hemit _ _)
    log := hsteady.log
    tree := fun _ h => proceeds_congr h rfl rfl
    determined := hsteady.currentMonitorPath fun _ h => proceeds_congr h rfl rfl
    debouncers := fun _ h => proceeds_congr h rfl rfl
    callback := fun _ _ h => proceeds_congr h rfl rfl
    pending := fun _ _ _ => trivial }
  have henduring : Enduring emit (Proceeds IsMinutes depth s) :=
    ⟨fun _ h => h.trans (hemit _ _), fun h hmoves => proceeds_congr h hmoves.bus hmoves.published⟩
  cases hc : c.isControl with
  | false => exact hunmoved.keeps_call hc (.refl s)
  | true => exact henduring.keeps_call hc (.refl s)

theorem proceeds_perform (action : ListenerAction) (s : Engine) :
    Proceeds IsMinutes depth s (perform emit action s).1 := by
  cases action with
  | record => exact .refl s
  | fail => exact .refl s
  | start => exact proceeds_call hemit s .start
  | stop => exact proceeds_call hemit s .stop
  | configure changes => exact proceeds_call hemit s (.configure changes)
  | process p => exact proceeds_call hemit s (.processChanged p)
  | unsubscribe name => exact proceeds_of_bus (s.bus.unsubscribe name) fun _ hm => ⟨rfl, hm.2⟩

/-- A listener hears of an event, and its failure is logged. -/
theorem proceeds_deliver (subscription : Subscription Listener) (e : Event) (s : Engine) :
    Proceeds IsMinutes depth s ((busHost emit).deliver e s subscription) := by
  refine BusHost.deliver_of_tell (fun _ _ h => proceeds_congr h rfl rfl) ?_
  exact keeps_hear (fun _ _ h => proceeds_congr h rfl rfl) (fun _ _ h => proceeds_congr h rfl rfl)
    (fun _ h => h.trans (proceeds_perform hemit _ _)) (.refl s)

end Publishes

theorem isMinutes_note {m : Minutes Listener} (hm : IsMinutes s m) (e : Event) :
    IsMinutes (s.note e) (m.announce e) :=
  ⟨hm.1, congrArg (· ++ [e]) hm.2⟩

/-- **Publishing in an engine proceeds in such steps.** -/
theorem proceeds_publish (depth : Nat) (e : Event) (s : Engine) :
    Proceeds IsMinutes depth s (publish depth e s) := by
  induction depth generalizing e s with
  | zero => exact fun m u hm => ⟨_, .single (.unheard e (Nat.le_refl _)), isMinutes_note hm e⟩
  | succ depth ih =>
    change Proceeds IsMinutes (depth + 1) s ((busHost (publish depth)).publish e (s.note e))
    refine proceeds_of_deliver (n := s.published.length)
      (fun m hm => ⟨isMinutes_note hm e, hm.1, congrArg List.length hm.2⟩) ?_
    exact fun subscription s' _ u hm => proceeds_deliver ih subscription e s' _ u hm

/-! ## A file that is processed -/

/-- A file that is expanded and neither written nor followed by others is said to have succeeded. -/
theorem processChanged_of_expand {p : Path} {text : List Char} {e : Expansion}
    (output : Path) (hannounced : message emit s!"Processing file {p}..." "" .information s = s')
    (hresult : s'.faults.noResult p = false) (hfault : s'.faults.expansion p = none)
    (htext : s'.tree.readText p = .ok text) (hexpand : expand s'.tree p text = .ok e)
    (hnamed : e.outputPaths = []) (hextension : s'.faults.missingOutputExtension = false)
    (hdefault : s'.defaultOutputPath p = output) (hwrites : s'.settings.writeOutputs = false)
    (htold : message emit s!"Successfully processed file {p}" "" .success
      (emit (.processSucceeded (.succeeded p [output] e.isPartial)) (s'.addEntries [e.logEntry p]))
        = s'')
    (halone : s''.settings.cascadeDependents = false) :
    (processChanged emit p s).1 = s'' := by
  have hexpanded : expandFile p text s' = (s'.addEntries [e.logEntry p], .ok (.ok e)) := by
    rw [expandFile, hfault]
    dsimp only
    rw [hexpand]
  have houtputs : (s'.addEntries [e.logEntry p]).outputsOf p e = .ok [output] := by
    rw [outputsOf, if_neg (by simp [hnamed]), if_neg (by simp [addEntries, hextension])]
    exact congrArg (fun path => Except.ok [path]) hdefault
  have hfile : processFile emit p s'
      = (s'.addEntries [e.logEntry p], .ok (some (.succeeded p [output] e.isPartial))) := by
    rw [processFile, if_neg (by simp [hresult]), htext]
    dsimp only
    rw [hexpanded]
    dsimp only
    rw [houtputs]
    dsimp only
    rw [if_neg (by simp [addEntries, hwrites])]
  have hreported : (processAndReport emit p s).1 = s'' := by
    unfold processAndReport
    dsimp only
    rw [hannounced, hfile]
    exact htold
  rw [processChanged]
  dsimp only
  rw [if_neg (by rw [hreported, halone]; exact Bool.false_ne_true), hreported]

/-! ## The order -/

/--
**A listener hears of two events in the order in which they were published exactly if it had heard
of the first when the second was published**, and so it is whenever the first publication was not
underway any more. This holds of all publications that proceed in steps, whatever the listeners do
and however deep they publish. Those of sessions with scripted listeners do, and so do those of
engines, whatever is asked for.
-/
theorem heard_in_order_iff {L : Type} {bound a b : Nat} {q p : Proceedings L} {e : Event}
    {d d' : Hearing} (hq : ReflTransGen (Step bound) .initial q)
    (hp : ReflTransGen (Step bound) (q.publish e) p) (hd : p.minutes.hearings[a]? = some d)
    (hd' : p.minutes.hearings[b]? = some d')
    (hearlier : d.publication < q.minutes.publications.length)
    (hthis : d'.publication = q.minutes.publications.length) :
    ((a < b ↔ a < q.minutes.hearings.length) ∧
      ((∀ u ∈ q.underway, u.publication ≠ d.publication) → a < b)) ∧
    (∀ depth e s, Proceeds BusSession.IsMinutes depth s (BusSession.publish depth e s)) ∧
    ∀ depth c s, Proceeds IsMinutes depth s (call (publish depth) s c) :=
  ⟨Proceedings.order hq hp hd hd' hearlier hthis, BusSession.proceeds_publish,
    fun depth c s => proceeds_call (proceeds_publish depth) s c⟩

/-- A session in which a listener answers one event with another, and a second listener. -/
def relayedSession : BusSession :=
  (BusSession.initial.subscribe "a" (some .started) [.publish .stopped]).subscribe "b" none []

/-- That session when the first listener has heard of the first event. -/
def relayedProceedings : Proceedings (List BusAction) :=
  ⟨⟨relayedSession.bus, [.started], [⟨0, 0⟩]⟩, [⟨0, .started, [⟨1, none, []⟩]⟩]⟩

/-- That session when both events are over. -/
def relayedProceedingsLater : Proceedings (List BusAction) :=
  ⟨⟨relayedSession.bus, [.started, .stopped], [⟨0, 0⟩, ⟨1, 1⟩, ⟨0, 1⟩]⟩, []⟩

/-- There the second listener hears of the second event first, as it had not heard of the first. -/
theorem relayedSession_order :
    BusSession.IsMinutes (BusSession.publish 2 .started relayedSession)
      relayedProceedingsLater.minutes ∧
    ReflTransGen (Step 2) .initial relayedProceedings ∧
    ReflTransGen (Step 2) (relayedProceedings.publish .stopped) relayedProceedingsLater ∧
    relayedProceedingsLater.minutes.hearings[2]? = some ⟨0, 1⟩ ∧
    relayedProceedingsLater.minutes.hearings[1]? = some ⟨1, 1⟩ ∧
    (2 < 1 ↔ 2 < relayedProceedings.minutes.hearings.length) := by
  have hq : ReflTransGen (Step 2) .initial relayedProceedings :=
    ((ReflTransGen.single (.change relayedSession.bus)).tail
      (.publish .started (by decide))).tail .deliver
  have hp : ReflTransGen (Step 2) (relayedProceedings.publish .stopped) relayedProceedingsLater :=
    (((ReflTransGen.single .deliver).tail .finish).tail .deliver).tail .finish
  have hd : relayedProceedingsLater.minutes.hearings[2]? = some ⟨0, 1⟩ := rfl
  have hd' : relayedProceedingsLater.minutes.hearings[1]? = some ⟨1, 1⟩ := rfl
  exact ⟨rfl, hq, hp, hd, hd', (heard_in_order_iff hq hp hd hd' (by decide) rfl).1.1⟩

/-- An engine with a listener that stops it when a file was processed, and one that takes notes. -/
def skittishEngine : Engine :=
  let engine := { smallEngine [".t"] Faults.none with
    tree := ⟨[(["w"], .directory), (["w", "page.t"], .file "Body".toUTF8)], []⟩ }
  (engine.subscribe "a" (some .processSucceeded) ⟨.stop, false⟩).subscribe "b" none ⟨.record, false⟩

theorem leavesFiles_skittishEngine : LeavesFiles skittishEngine.bus := by
  rintro subscription hmem p hp
  obtain rfl | rfl : subscription = ⟨0, some .processSucceeded, ⟨.stop, false⟩⟩ ∨
      subscription = ⟨1, none, ⟨.record, false⟩⟩ := by
    simpa [skittishEngine, smallEngine, initial, subscribe, EventBus.initial, EventBus.subscribe]
      using hmem
  · cases hp
  · cases hp

/-- That engine after it was started and processed a file. -/
def skittishEngineLater : Engine :=
  (skittishEngine.call (publish 2) .start).call (publish 2)
    (.processChanged (.ofString "/w/page.t"))

/-- An expansion cannot be computed, but what becomes of it can. -/
theorem skittishEngineLater_eq :
    skittishEngineLater =
      message (publish 2) "Successfully processed file /w/page.t" "" .success
        (publish 2
          (.processSucceeded (.succeeded (.ofString "/w/page.t") [.ofString "/w/page.html"] false))
          ((message (publish 2) "Processing file /w/page.t..." "" .information
            (skittishEngine.call (publish 2) .start)).addEntries
              [Expansion.logEntry ⟨"Body".toList, [], false, []⟩ (.ofString "/w/page.t")])) := by
  have htext : skittishEngine.tree.readText (.ofString "/w/page.t") = .ok "Body".toList := by
    decide +kernel
  have hexpand : expand skittishEngine.tree (.ofString "/w/page.t") "Body".toList
      = .ok ⟨"Body".toList, [], false, []⟩ :=
    @Expansion.run_eq_of_runWithin _ _ _ _ 1 _ (by decide +kernel)
  have hannounced : "Processing file " ++ toString (Path.ofString "/w/page.t") ++ "..."
      = "Processing file /w/page.t..." := by decide +kernel
  have htold : "Successfully processed file " ++ toString (Path.ofString "/w/page.t")
      = "Successfully processed file /w/page.t" := by decide +kernel
  have hendures := enduring_publish skittishEngine.tree 2
  have htree : (message (publish 2) "Processing file /w/page.t..." "" .information
      (skittishEngine.call (publish 2) .start)).tree = skittishEngine.tree :=
    (hendures.proceeding.message _ _ _ (hendures.start ⟨rfl, leavesFiles_skittishEngine⟩)).1
  exact processChanged_of_expand (.ofString "/w/page.html")
    (congrArg (message _ · _ _ _) hannounced) (by decide +kernel) (by decide +kernel)
    (by rw [htree, htext]) (by rw [htree, hexpand]) rfl (by decide +kernel) (by decide +kernel)
    (by decide +kernel) (congrArg (message _ · _ _ _) htold) (by decide +kernel)

/--
**Events are not heard in the order in which they were published.** A listener that subscribed after
one that publishes an event in answer to another hears of the answer first. So a listener of an
engine hears that the engine stops before it hears why, namely that a file was processed.
-/
theorem heard_out_of_order :
    (BusSession.publish 2 .started relayedSession).publications.map Publication.event
        = [.started, .stopped] ∧
      (BusSession.publish 2 .started relayedSession).deliveries.map (fun d => (d.name, d.event))
        = [("a", .started), ("b", .stopped), ("b", .started)] ∧
    (skittishEngineLater.published.map Event.type).filter (· ∈ [.processSucceeded, .stopped])
        = [.processSucceeded, .stopped] ∧
      ((skittishEngineLater.observations.filter (·.listener == "b")).map Observation.event).filter
          (· ∈ [.processSucceeded, .stopped])
        = [.stopped, .processSucceeded] := by
  refine ⟨by decide, by decide, ?_, ?_⟩
  · rw [skittishEngineLater_eq]
    decide +kernel
  · rw [skittishEngineLater_eq]
    decide +kernel

end LiveTemplates.Engine
