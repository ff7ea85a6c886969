import LiveTemplates.Proofs.Engine.Frame
import LiveTemplates.Proofs.Expansion.Iterations
import LiveTemplates.Proofs.FileTree.Change
import LiveTemplates.Proofs.Path.Reading

/-!
# Whether a file is overwritten by its own text

A text is not written to an output that is the same path as its source. Paths are the same up to
case, but the number of leading slashes counts although a walk does not care: an output that leads
to the source with one slash where the source has two, or the other way round, evades this check
(`Path.Evades`). All other outputs leave the source as it is, also those that fail, and an evading
one replaces it (`read_source`).

Listeners hear of skipped outputs. What is said here holds with any listeners that do not process
files themselves.
-/

namespace LiveTemplates

/-! ## Listeners -/

namespace Engine

variable {s : Engine} {p : Path}

/-- No listener of a bus processes files. -/
def LeavesFiles (b : EventBus Listener) : Prop :=
  ∀ subscription ∈ b.subscriptions, ∀ p, subscription.listener.action ≠ .process p

/-- The engine has a certain tree, and its listeners do not process files. -/
def HasTree (t : FileTree) (s : Engine) : Prop :=
  s.tree = t ∧ LeavesFiles s.bus

theorem LeavesFiles.unsubscribe {b : EventBus Listener} (h : LeavesFiles b) (name : String) :
    LeavesFiles (b.unsubscribe name) := by
  unfold EventBus.unsubscribe
  split
  · exact h
  · exact fun subscription hmem => h subscription (List.mem_filter.mp hmem).1

/-- A listener that does not process files keeps the tree. -/
theorem hasTree_hear {t : FileTree} {emit : Event → Engine → Engine}
    (hemit : Enduring emit (HasTree t)) {subscription : Subscription Listener}
    (haction : ∀ p, subscription.listener.action ≠ .process p) (e : Event) (hs : HasTree t s) :
    HasTree t (hear emit subscription e s).1 := by
  have hperform : ∀ s, HasTree t s → HasTree t (perform emit subscription.listener.action s).1 := by
    intro s hs
    cases haction' : subscription.listener.action with
    | record => exact hs
    | fail => exact hs
    | start => exact hemit.start hs
    | stop => exact hemit.stop hs
    | configure changes => exact hemit.configure changes hs
    | process p => exact absurd haction' (haction p)
    | unsubscribe name => exact ⟨hs.1, hs.2.unsubscribe name⟩
  exact keeps_hear (fun _ _ h => h) (fun _ _ h => h) hperform hs

/-- **Events change the tree only through listeners that process files.** -/
theorem enduring_publish (t : FileTree) (depth : Nat) :
    Enduring (publish depth) (HasTree t) := by
  induction depth with
  | zero => exact ⟨fun _ hs => hs, fun hs hm => ⟨hm.tree.trans hs.1, hm.bus ▸ hs.2⟩⟩
  | succ depth ih =>
    refine ⟨fun {s} e hs => ?_, fun hs hm => ⟨hm.tree.trans hs.1, hm.bus ▸ hs.2⟩⟩
    exact BusHost.publish_induction (fun _ _ hs => hs)
      (fun subscription hmem s' hs' =>
        hasTree_hear ih (hs.2 subscription (List.mem_filter.mp hmem).1) e hs') hs

end Engine

/-! ## Paths to the same place -/

namespace Path

variable {p q cwd : Path}

/--
Two paths lead to the same place, one of them with one leading slash and the other with two, as seen
from a working directory.
-/
def Evades (p q cwd : Path) : Prop :=
  (p.absolute cwd).names = (q.absolute cwd).names ∧ (p.absolute cwd).root ≠ (q.absolute cwd).root

instance (p q cwd : Path) : Decidable (Evades p q cwd) :=
  inferInstanceAs (Decidable (_ ∧ _))

/-- Two paths to the same place are the same path, unless one evades the other. -/
theorem sameAs_of_names (hnames : (p.absolute cwd).names = (q.absolute cwd).names)
    (h : ¬ p.Evades q cwd) : p.sameAs q cwd = true := by
  have hroot : (p.absolute cwd).root = (q.absolute cwd).root :=
    Decidable.not_not.mp fun hroot => h ⟨hnames, hroot⟩
  have habsolute : p.absolute cwd = q.absolute cwd := by
    cases hp : p.absolute cwd
    cases hq : q.absolute cwd
    simp_all
  simp [sameAs, key, habsolute]

/-- The key of an absolute path has its leading slashes. -/
theorem length_key (hcwd : cwd.isAbsolute = true) (p : Path) :
    (p.key cwd).toList.length = (Text.caseFold (p.absolute cwd).root.text.toList).length
      + (Text.caseFold ("/".intercalate (p.absolute cwd).names).toList).length := by
  have hroot : (p.absolute cwd).root ≠ .workingDirectory := by
    simpa [isAbsolute] using isAbsolute_absolute hcwd p
  rw [key, Text.caseFoldString, String.toList_ofList, toString, if_neg fun h => hroot h.1,
    String.toList_append, Text.caseFold_append, List.length_append]

/-- The number of leading slashes is the same in a key. -/
theorem length_caseFold_text (r : Root) :
    (Text.caseFold r.text.toList).length = r.text.toList.length := by
  cases r <;> decide

/-- A path that evades another is not the same path. -/
theorem sameAs_of_evades (hcwd : cwd.isAbsolute = true) (h : p.Evades q cwd) :
    p.sameAs q cwd = false := by
  obtain ⟨hnames, hroot⟩ := h
  suffices hkeys : p.key cwd ≠ q.key cwd by simpa [sameAs] using hkeys
  intro hkeys
  have hlength := length_key hcwd p
  rw [hkeys, length_key hcwd q, hnames, Nat.add_right_cancel_iff, length_caseFold_text,
    length_caseFold_text] at hlength
  revert hlength hroot
  cases (p.absolute cwd).root <;> cases (q.absolute cwd).root <;> decide

/-! ## The default output -/

/-- The stem of a name is neither empty nor does it contain a slash, if the name does not. -/
theorem stem_of_name (hne : p.name.toList ≠ []) (hslash : '/' ∉ p.name.toList) :
    p.stem.toList ≠ [] ∧ '/' ∉ p.stem.toList := by
  unfold stem
  dsimp only
  split
  · exact ⟨hne, hslash⟩
  · next h =>
    rw [String.toList_ofList]
    refine ⟨fun hbase => h (by simp [hbase]), fun hmem => hslash (List.mem_of_mem_take hmem)⟩

/-- The path beside a file starts where the path of the file starts. -/
theorem root_withExtension {name : String} (hne : (ofString name).names ≠ [])
    (extension : String) : ((ofString name).withExtension extension).root = (ofString name).root := by
  have hn := List.getLast?_eq_some_getLast hne
  have hname : (ofString name).name = (ofString name).names.getLast hne := by
    rw [Path.name, hn]
    rfl
  have hproper := isSpelled_ofString name _ (List.mem_of_getLast? hn)
  rw [← hname] at hproper
  obtain ⟨hstem, hslash⟩ := stem_of_name hproper.nonempty hproper.notSlash
  obtain ⟨c, cs, hcs⟩ := List.exists_cons_of_ne_nil hstem
  have hc : c ≠ '/' := fun hc => hslash (by simp [hcs, hc])
  have hroot : (ofString ((ofString name).stem ++ extension)).root = .workingDirectory := by
    rw [ofString, String.toList_append, hcs, List.cons_append, rootOf_cons hc]
  have hdiv : ∀ (q : Path) (s : String), q / s = q.join (ofString s) := fun _ _ => rfl
  rw [withExtension, hdiv, join, hroot]
  rfl

/-- The absolute path starts where the path starts, or where the working directory does. -/
theorem root_absolute (h : p.root = q.root) (cwd : Path) :
    (p.absolute cwd).root = (q.absolute cwd).root := by
  obtain ⟨root, names⟩ := p
  obtain ⟨root', names'⟩ := q
  obtain rfl : root = root' := h
  cases root <;> rfl

end Path

/-! ## Writing -/

namespace Engine

variable {s : Engine} {p output : Path} {place : Place} {content : ByteArray} {text : List Char}

/-- The octets that are written for a text. -/
def octetsOf (text : List Char) : ByteArray :=
  (String.ofList text).toUTF8

/-- A tree, and some time later the file that a path led to, with its content. -/
structure Retains (t₀ t : FileTree) (p : Path) (content : ByteArray) : Prop where
  workingDirectory : t.workingDirectory = t₀.workingDirectory
  holds : t.Holds p (p.absolute t₀.cwd).names content

namespace Retains

variable {t₀ t t' : FileTree}

theorem of_read (hcwd : ".." ∉ t₀.workingDirectory) (h : t₀.read p = .ok content) :
    Retains t₀ t₀ p content := by
  obtain ⟨place, hplace⟩ := FileTree.read_eq_ok_iff.mp h
  refine ⟨rfl, ?_⟩
  rwa [← FileTree.place_of_find hcwd hplace.find]

theorem read_eq (h : Retains t₀ t p content) : t.read p = .ok content :=
  FileTree.read_eq_ok_iff.mpr ⟨_, h.holds⟩

theorem cwd_eq (h : Retains t₀ t p content) : t.cwd = t₀.cwd :=
  congrArg (Path.mk .slash) h.workingDirectory

theorem ensureDirectory (h : Retains t₀ t p content) (q : Path) :
    Retains t₀ (t.ensureDirectory q).1 p content :=
  have hkeeps := t.keeps_ensureDirectory q
  ⟨hkeeps.workingDirectory.trans h.workingDirectory, hkeeps.holds h.holds⟩

/-- What is written to another place leaves a file as it is. -/
theorem write_of_ne (hcwd : ".." ∉ t₀.workingDirectory) (h : Retains t₀ t p content)
    {bytes : ByteArray} (hwrite : t.write output bytes = .ok t')
    (hne : (p.absolute t₀.cwd).names ≠ (output.absolute t₀.cwd).names) :
    Retains t₀ t' p content := by
  have hcwd' := h.workingDirectory ▸ hcwd
  refine ⟨(FileTree.workingDirectory_write hcwd' hwrite).trans h.workingDirectory, ?_⟩
  exact h.holds.write_of_ne hcwd' hwrite (h.cwd_eq ▸ hne)

/-- What is written to the place of a file is its content. -/
theorem write_same (hcwd : ".." ∉ t₀.workingDirectory) (h : Retains t₀ t p content)
    {bytes : ByteArray} (hwrite : t.write output bytes = .ok t')
    (heq : (p.absolute t₀.cwd).names = (output.absolute t₀.cwd).names) :
    Retains t₀ t' p bytes := by
  have hcwd' := h.workingDirectory ▸ hcwd
  refine ⟨(FileTree.workingDirectory_write hcwd' hwrite).trans h.workingDirectory, ?_⟩
  exact h.holds.write_same hcwd' hwrite (h.cwd_eq ▸ heq)

end Retains

variable {t₀ : FileTree}

/--
An output at another place than the source leaves the source as it is. So does every output if the
text is what the source holds.
-/
theorem retains_writeOutput (hcwd : ".." ∉ t₀.workingDirectory) (h : Retains t₀ s.tree p content)
    (hsame : (p.absolute t₀.cwd).names = (output.absolute t₀.cwd).names →
      content = octetsOf text) :
    Retains t₀ (writeOutput p text output s).1.tree p content := by
  have hensured := h.ensureDirectory output.parent
  unfold writeOutput
  split
  · next heq => rwa [heq] at hensured
  · next heq =>
    rw [heq] at hensured
    split
    · exact hensured
    · next hwrite =>
      by_cases hnames : (p.absolute t₀.cwd).names = (output.absolute t₀.cwd).names
      · rw [hsame hnames]
        exact hensured.write_same hcwd hwrite hnames
      · exact hensured.write_of_ne hcwd hwrite hnames

/-- An output at the place of the source replaces it. -/
theorem retains_writeOutput_same (hcwd : ".." ∉ t₀.workingDirectory)
    (h : Retains t₀ s.tree p content)
    (hnames : (p.absolute t₀.cwd).names = (output.absolute t₀.cwd).names)
    (hok : (writeOutput p text output s).2 = .ok ()) :
    Retains t₀ (writeOutput p text output s).1.tree p (octetsOf text) := by
  have hensured := h.ensureDirectory output.parent
  revert hok
  unfold writeOutput
  split
  · intro hok
    cases hok
  · next heq =>
    rw [heq] at hensured
    split
    · intro hok
      cases hok
    · next hwrite =>
      intro _
      exact hensured.write_same hcwd hwrite hnames

/-- To write an output does not change the bus. -/
theorem bus_writeOutput (p : Path) (text : List Char) (output : Path) (s : Engine) :
    (writeOutput p text output s).1.bus = s.bus := by
  unfold writeOutput
  split
  · rfl
  · split <;> rfl

variable {depth : Nat}

/-- Listeners that do not process files do not change the tree when they hear of a message. -/
theorem hasTree_message (hlisteners : LeavesFiles s.bus) (title detail : String)
    (severity : Severity) : HasTree s.tree (message (publish depth) title detail severity s) :=
  (enduring_publish s.tree depth).proceeding.message _ _ _ ⟨rfl, hlisteners⟩

/-- An output at the place of the source that is not skipped evades the check. -/
theorem evades_of_written (h : Retains t₀ s.tree p content)
    (hnames : (p.absolute t₀.cwd).names = (output.absolute t₀.cwd).names)
    (hskip : ¬ output.sameAs p s.tree.cwd = true) : output.Evades p t₀.cwd := by
  rw [h.cwd_eq] at hskip
  exact Decidable.byContradiction fun hevades =>
    hskip (Path.sameAs_of_names hnames.symm hevades)

/--
Outputs leave the source as it is, unless they evade the check. If its content is the text already,
they leave it as it is in any case.
-/
theorem retains_writeOutputs (hcwd : ".." ∉ t₀.workingDirectory) {outputs : List Path}
    (hlisteners : LeavesFiles s.bus) (h : Retains t₀ s.tree p content)
    (hevades : ∀ output ∈ outputs, output.Evades p t₀.cwd → content = octetsOf text) :
    Retains t₀ (writeOutputs (publish depth) p text outputs s).1.tree p content := by
  induction outputs generalizing s with
  | nil => exact h
  | cons output rest ih =>
    have hrest := fun o ho => hevades o (List.mem_cons_of_mem _ ho)
    rw [writeOutputs]
    split
    · have hmessage := @hasTree_message s depth hlisteners s!"Skipped output {output}"
        "Output path is the source file" .warning
      exact ih hmessage.2 (hmessage.1 ▸ h) hrest
    · next hskip =>
      have hwritten : Retains t₀ (writeOutput p text output s).1.tree p content :=
        retains_writeOutput hcwd h fun hnames =>
          hevades output List.mem_cons_self (evades_of_written h hnames hskip)
      have hbus := bus_writeOutput p text output s
      split
      · next heq => rwa [heq] at hwritten
      · next heq =>
        rw [heq] at hwritten hbus
        exact ih (hbus ▸ hlisteners) hwritten hrest

/-- An output that evades the check replaces the source, if all outputs are written. -/
theorem retains_writeOutputs_of_evades (hcwd : ".." ∉ t₀.workingDirectory) {outputs : List Path}
    (hlisteners : LeavesFiles s.bus) (h : Retains t₀ s.tree p content)
    (hevades : ∃ output ∈ outputs, output.Evades p t₀.cwd)
    (hok : (writeOutputs (publish depth) p text outputs s).2 = .ok ()) :
    Retains t₀ (writeOutputs (publish depth) p text outputs s).1.tree p (octetsOf text) := by
  induction outputs generalizing s content with
  | nil => simp at hevades
  | cons output rest ih =>
    have hbus := bus_writeOutput p text output s
    rw [writeOutputs] at hok ⊢
    by_cases hhead : output.Evades p t₀.cwd
    · -- the rest cannot change the source any more: it holds the text
      have hskip : ¬ output.sameAs p s.tree.cwd = true := by
        rw [h.cwd_eq, Path.sameAs_of_evades t₀.isAbsolute_cwd hhead]
        simp
      rw [if_neg hskip] at hok ⊢
      have hwritten := @retains_writeOutput_same s p output content text t₀ hcwd h hhead.1.symm
      split at hok
      · cases hok
      · next heq =>
        rw [heq] at hwritten hbus
        exact retains_writeOutputs hcwd (hbus ▸ hlisteners) (hwritten rfl) fun _ _ _ => rfl
    · obtain ⟨o, ho, hoevades⟩ := hevades
      have hrest : ∃ output ∈ rest, output.Evades p t₀.cwd := by
        rcases List.mem_cons.mp ho with rfl | ho
        · exact absurd hoevades hhead
        · exact ⟨o, ho, hoevades⟩
      split at hok
      · next hskip =>
        have hmessage := @hasTree_message s depth hlisteners s!"Skipped output {output}"
          "Output path is the source file" .warning
        rw [if_pos hskip]
        exact ih hmessage.2 (hmessage.1 ▸ h) hrest hok
      · next hskip =>
        have hwritten := @retains_writeOutput s p output content text t₀ hcwd h fun hnames =>
          absurd (evades_of_written h hnames hskip) hhead
        rw [if_neg hskip]
        split at hok
        · cases hok
        · next heq =>
          rw [heq] at hwritten hbus
          exact ih (hbus ▸ hlisteners) hwritten hrest hok

/-! ## Processing -/

/-- A path to a file has a name. -/
theorem names_ne_nil_of_read {t : FileTree} (hcwd : t.entry? t.workingDirectory = some .directory)
    (h : t.read p = .ok content) : p.names ≠ [] := by
  intro hnil
  obtain ⟨place, hfind, hentry⟩ := FileTree.read_eq_ok_iff.mp h
  unfold FileTree.find at hfind
  split at hfind
  · cases hfind
  · have hstart : t.startOf p = place := by simpa [hnil, FileTree.follow] using hfind
    rw [← hstart, FileTree.startOf] at hentry
    split at hentry
    · simp [FileTree.entry_root] at hentry
    · rw [hcwd] at hentry
      cases hentry

/-- The default output of a file does not evade the check. -/
theorem not_evades_defaultOutputPath {name : String} (hne : (Path.ofString name).names ≠ [])
    (s : Engine) (cwd : Path) :
    ¬ (s.defaultOutputPath (.ofString name)).Evades (.ofString name) cwd :=
  fun h => h.2 (Path.root_absolute (Path.root_withExtension hne _) cwd)

theorem expandFile_eq (p : Path) (text : List Char) (s : Engine) :
    ∃ entries, (expandFile p text s).1 = s.addEntries entries := by
  unfold expandFile
  split
  · exact ⟨[], by simp [addEntries]⟩
  · split
    · exact ⟨_, rfl⟩
    · exact ⟨[], by simp [addEntries]⟩
    · exact ⟨[], by simp [addEntries]⟩

/-- What comes out of expanding a file is the expansion of its text. -/
theorem expand_of_expandFile {s' : Engine} {e : Expansion}
    (h : expandFile p text s = (s', .ok (.ok e))) : expand s.tree p text = .ok e := by
  unfold expandFile at h
  split at h
  · cases h
  · split at h
    · next heq => 
      cases h
      exact heq
    · cases h
    · cases h

/-- What a file that names outputs is processed to, if its text is expanded and written. -/
theorem processFile_of_expand {emit : Event → Engine → Engine} {e : Expansion}
    (hresult : s.faults.noResult p = false) (hfault : s.faults.expansion p = none)
    (htext : s.tree.readText p = .ok text) (hexpand : expand s.tree p text = .ok e)
    (hpaths : e.outputPaths ≠ []) (hpartial : e.isPartial = false)
    (hwrites : s.settings.writeOutputs = true) :
    (processFile emit p s).1
      = (writeOutputs emit p e.text e.outputPaths (s.addEntries [e.logEntry p])).1 := by
  have hexpanded : expandFile p text s = (s.addEntries [e.logEntry p], .ok (.ok e)) := by
    rw [expandFile, hfault]
    dsimp only
    rw [hexpand]
  have houtputs : (s.addEntries [e.logEntry p]).outputsOf p e = .ok e.outputPaths := by
    rw [outputsOf, if_pos (by simpa using hpaths)]
  have hwrites' : ((s.addEntries [e.logEntry p]).settings.writeOutputs && !e.isPartial) = true := by
    simp [addEntries, hwrites, hpartial]
  rw [processFile, if_neg (by simp [hresult]), htext]
  dsimp only
  rw [hexpanded]
  dsimp only
  rw [houtputs]
  dsimp only
  rw [if_pos hwrites']

/-- Processing a file leaves it as it is, if no output that it names evades the check. -/
theorem retains_processFile {name : String} (hcwd : ".." ∉ s.tree.workingDirectory)
    (hdirectory : s.tree.entry? s.tree.workingDirectory = some .directory)
    (hlisteners : LeavesFiles s.bus) (hread : s.tree.read (.ofString name) = .ok content)
    (hevades : ∀ text e, s.tree.readText (.ofString name) = .ok text →
      expand s.tree (.ofString name) text = .ok e →
      ∀ output ∈ e.outputPaths, ¬ output.Evades (.ofString name) s.tree.cwd) :
    Retains s.tree (processFile (publish depth) (.ofString name) s).1.tree (.ofString name)
      content := by
  have hne := names_ne_nil_of_read hdirectory hread
  have hsource := Retains.of_read hcwd hread
  unfold processFile
  split
  · exact hsource
  · split
    · exact hsource
    · next text htext =>
      obtain ⟨entries, hentries⟩ := expandFile_eq (.ofString name) text s
      split
      · next heq =>
        rw [heq] at hentries
        exact hentries ▸ hsource
      · next heq =>
        rw [heq] at hentries
        exact hentries ▸ hsource
      · next s' e heq =>
        have hexpand := expand_of_expandFile heq
        rw [heq] at hentries
        obtain rfl : s' = s.addEntries entries := hentries
        split
        · exact hsource
        · next outputs houtputs =>
          have houtputs' : ∀ output ∈ outputs, ¬ output.Evades (.ofString name) s.tree.cwd := by
            unfold outputsOf at houtputs
            split at houtputs
            · cases houtputs
              exact hevades text e htext hexpand
            · split at houtputs
              · cases houtputs
              · cases houtputs
                simpa using not_evades_defaultOutputPath hne _ _
          dsimp only
          split
          · exact retains_writeOutputs hcwd hlisteners hsource fun output hmem hoevades =>
              absurd hoevades (houtputs' output hmem)
          · exact hsource

/--
**A file is not overwritten by its own text, unless an output evades the check.** It is left as it
is by all lists of outputs without such a path, whatever fails, and by the processing of the file if
its expansion names no such path; the default output never is one. If all outputs are written and
one of them evades the check, the text is what the file holds in the end.
-/
theorem read_source (depth : Nat) (s : Engine) (name : String) (content : ByteArray)
    (hcwd : ".." ∉ s.tree.workingDirectory)
    (hdirectory : s.tree.entry? s.tree.workingDirectory = some .directory)
    (hlisteners : LeavesFiles s.bus) (hread : s.tree.read (.ofString name) = .ok content) :
    let p := Path.ofString name
    (∀ text outputs, (∀ output ∈ outputs, ¬ output.Evades p s.tree.cwd) →
      (writeOutputs (publish depth) p text outputs s).1.tree.read p = .ok content) ∧
    ((∀ text e, s.tree.readText p = .ok text → expand s.tree p text = .ok e →
        ∀ output ∈ e.outputPaths, ¬ output.Evades p s.tree.cwd) →
      (processFile (publish depth) p s).1.tree.read p = .ok content) ∧
    ∀ text outputs, (∃ output ∈ outputs, output.Evades p s.tree.cwd) →
      (writeOutputs (publish depth) p text outputs s).2 = .ok () →
      (writeOutputs (publish depth) p text outputs s).1.tree.read p = .ok (octetsOf text) := by
  have hsource := Retains.of_read hcwd hread
  refine ⟨fun text outputs hevades => ?_, fun hevades => ?_, fun text outputs hevades hok => ?_⟩
  · refine (retains_writeOutputs hcwd hlisteners hsource fun output hmem hoevades => ?_).read_eq
    exact absurd hoevades (hevades output hmem)
  · exact (retains_processFile hcwd hdirectory hlisteners hread hevades).read_eq
  · exact (retains_writeOutputs_of_evades hcwd hlisteners hsource hevades hok).read_eq

/-- An engine for a directory with one page, and a listener that only records. -/
def engineWith (page : String) : Engine :=
  { initial
      { baseDir := .ofString "/w", monitorPath := none, configFileName := "", extensions := [".t"],
        outputExtension := ".html", processDelayMs := 50, cascadeDependents := false,
        transitiveDependents := false, writeOutputs := true }
      [] [] ⟨[(["w"], .directory), (["w", "page.t"], .file page.toUTF8)], ["w"]⟩ .none none
    with bus := EventBus.initial.subscribe "record" none ⟨.record, false⟩ }

theorem leavesFiles_engineWith (page : String) : LeavesFiles (engineWith page).bus := by
  rintro subscription hmem p hp
  obtain rfl : subscription = ⟨0, none, ⟨.record, false⟩⟩ := by
    simpa [engineWith, EventBus.initial, EventBus.subscribe] using hmem
  cases hp

/-- A page that names itself in three ways, and another file. -/
def selfishPage : String :=
  "<!--@ output page.t --><!--@ output ./x/../PAGE.t --><!--@ output /w/page.t --><!--@ output o -->;"

/-- That page is left as it is. -/
theorem selfishPage_kept :
    (".." ∉ (engineWith selfishPage).tree.workingDirectory ∧
      (engineWith selfishPage).tree.entry? (engineWith selfishPage).tree.workingDirectory
        = some .directory ∧
      LeavesFiles (engineWith selfishPage).bus ∧
      (engineWith selfishPage).tree.read (.ofString "page.t") = .ok selfishPage.toUTF8) ∧
    (processFile (publish 2) (.ofString "page.t") (engineWith selfishPage)).1.tree.read
      (.ofString "page.t") = .ok selfishPage.toUTF8 := by
  have hlisteners := leavesFiles_engineWith selfishPage
  have hcwd : ".." ∉ (engineWith selfishPage).tree.workingDirectory := by decide
  have hdirectory : (engineWith selfishPage).tree.entry?
      (engineWith selfishPage).tree.workingDirectory = some .directory := by rfl
  have hread : (engineWith selfishPage).tree.read (.ofString "page.t")
      = .ok selfishPage.toUTF8 := by rfl
  have htext : (engineWith selfishPage).tree.readText (.ofString "page.t")
      = .ok selfishPage.toList := by decide +kernel
  have hexpand : expand (engineWith selfishPage).tree (.ofString "page.t") selfishPage.toList
      = .ok ⟨[';'], [⟨.slash, ["w", "page.t"]⟩, ⟨.slash, ["w", "PAGE.t"]⟩,
        ⟨.slash, ["w", "page.t"]⟩, ⟨.slash, ["w", "o"]⟩], false, []⟩ :=
    @Expansion.run_eq_of_runWithin _ _ _ _ 5 _ (by decide +kernel)
  refine ⟨⟨hcwd, hdirectory, hlisteners, hread⟩,
    (read_source 2 _ _ _ hcwd hdirectory hlisteners hread).2.1 ?_⟩
  intro text e htext' hexpand'
  rw [htext] at htext'
  cases htext'
  rw [hexpand] at hexpand'
  cases hexpand'
  decide +kernel

/-- A page whose output has two leading slashes where the page has one. -/
def evadingPage : String :=
  "<!--@ output //w/page.t -->;"

/-- Not every file is left as it is when it is processed: that page becomes its own text. -/
theorem not_forall_read_processFile :
    ¬ ∀ (depth : Nat) (s : Engine) (name : String) (content : ByteArray),
      ".." ∉ s.tree.workingDirectory →
      s.tree.entry? s.tree.workingDirectory = some .directory →
      LeavesFiles s.bus → s.tree.read (.ofString name) = .ok content →
      (processFile (publish depth) (.ofString name) s).1.tree.read (.ofString name)
        = .ok content := by
  intro h
  let s := engineWith evadingPage
  let t := s.tree
  let p := Path.ofString "page.t"
  let output : Path := ⟨.doubleSlash, ["w", "page.t"]⟩
  have hread : t.read p = .ok evadingPage.toUTF8 := by rfl
  have htext : t.readText p = .ok evadingPage.toList := by decide +kernel
  have hexpand : expand t p evadingPage.toList = .ok ⟨[';'], [output], false, []⟩ :=
    @Expansion.run_eq_of_runWithin _ _ _ _ 2 _ (by decide +kernel)
  have hskip : output.sameAs p t.cwd = false := by decide +kernel
  have hensure : t.ensureDirectory output.parent = (t, none) := by
    rw [FileTree.ensureDirectory]
    rfl
  have hwrite : t.write output (octetsOf [';'])
      = .ok (t.put ["w", "page.t"] (.file (octetsOf [';']))) := by rfl
  have hprocess : (processFile (publish 0) p s).1.tree
      = t.put ["w", "page.t"] (.file (octetsOf [';'])) := by
    rw [processFile_of_expand rfl rfl htext hexpand (List.cons_ne_nil _ _) rfl rfl, writeOutputs,
      tree_addEntries, if_neg (by rw [hskip]; exact Bool.false_ne_true), writeOutput,
      tree_addEntries, hensure]
    dsimp only
    rw [show t.write output (String.ofList [';']).toUTF8 = _ from hwrite]
    rfl
  have hkept := h 0 (engineWith evadingPage) "page.t" evadingPage.toUTF8 (by decide) (by rfl)
    (leavesFiles_engineWith _) hread
  rw [hprocess] at hkept
  revert hkept
  decide +kernel

end Engine

end LiveTemplates
