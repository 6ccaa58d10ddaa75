import Vertep.Layout.Safe

/-!
# Crashes of the release layout (`scripts/release-layout.py`)

Over every run, what is active is completely prepared and what was active before is there to go back to, where no
activation is repeated or cut off before it is recorded, and nothing is activated that a removal has left in part.
-/

namespace Vertep.Layout
open Lib Script Relation

variable {env : Env} {rolls : Prop} {command : Command} {s s' : Base}

/-! ## Runs -/

lemma keeps_path (path : ReflTransGen (Keeps env rolls) s s') : Keeps env rolls s s' := by
  induction path with
  | refl => exact id
  | tail _ last ih => exact last ∘ ih

lemma Step.safe (step : Step env command s s') (safe : Safe env rolls s) (whole : Whole env command s)
    (another : rolls → ∀ version, command = .activate version → s.current = some version → s.target = none)
    (recorded : rolls → s.recorded = true ∨ s.target = none) : Safe env rolls s' := by
  cases step with
  | prepare pid payload version _ _ out exec =>
    exact keeps_path ((prepare_sure pid payload version).exec exec).1 safe
  | activate pid version _ _ out exec =>
    refine keeps_path ((activate_sure safe pid version (fun tree => whole version tree rfl) ?_).exec exec).1 safe
    exact fun holds => another holds version rfl
  | rollback pid _ _ out exec => exact keeps_path ((rollback_sure safe pid recorded).exec exec).1 safe
  | discard version _ _ out exec => exact keeps_path ((discard_sure safe recorded version).exec exec).1 safe
  | prune keep _ _ out exec => exact keeps_path ((prune_sure safe recorded keep).exec exec).1 safe

lemma safe_empty : Safe env rolls {} := ⟨by simp, by simp, by simp, by simp⟩

lemma Runs.safe (runs : Runs env (fun command s _ => Whole env command s) s) : Safe env False s := by
  refine Reach.invariant (I := Safe env False) ?_ ?_ runs
  · rintro _ rfl
    exact safe_empty
  · rintro s s' safe ⟨command, whole, step⟩
    exact step.safe safe whole False.elim False.elim

/-- An `activate` that returns has recorded what it activated. -/
lemma Runs.activate_records (runs : Runs env (fun command s _ => Whole env command s) s) {pid : ℕ} {version : String}
    (whole : Whole env (.activate version) s)
    (exec : Program.Exec (machine env) (activate pid version ()) s (some (.ok (), ())) s') : s'.recorded = true :=
  ((activate_sure runs.safe pid version (fun tree => whole version tree rfl) False.elim).exec exec).2.1 () () rfl

lemma Runs.recorded (runs : Runs env (Orderly env) s) : Safe env True s ∧ (s.recorded = true ∨ s.target = none) := by
  refine Reach.invariant (I := fun s => Safe env True s ∧ (s.recorded = true ∨ s.target = none)) ?_ ?_ runs
  · rintro _ rfl
    exact ⟨safe_empty, .inl rfl⟩
  · rintro s s' ⟨safe, recorded⟩ ⟨command, orderly, step⟩
    exact ⟨step.safe safe orderly.whole (fun _ => orderly.another) fun _ => recorded, orderly.recorded⟩

/-! ## Calls that succeed -/

/-- What a call answers and leaves where nothing fails. -/
def Call.succeeds (env : Env) : (c : Call) → Base → c.Reply × Base
  | .mkdir, s => (.ok (), s)
  | .exists name, s => ((s.releases.get? name).isSome, s)
  | .copytree payload name, s =>
    match s.releases.get? name with
    | none => (.ok (), s.begin name (code payload))
    | some _ => (.error .os, s)
  | .link name path, s =>
    match s.releases.get? name with
    | some tree => (.ok (), s.put name (tree.set path (shared path)))
    | none => (.error .os, s)
  | .writeMetadata name version sha256, s =>
    match s.releases.get? name with
    | some tree => (.ok (), s.put name (tree.set ".release.json" (.metadata version sha256)))
    | none => (.error .os, s)
  | .publish name version, s =>
    match s.releases.get? name, s.releases.get? version with
    | some tree, none => (.ok (), s.publish name version tree)
    | _, _ => (.error .os, s)
  | .rmtree name, s =>
    match s.releases.get? name with
    | some _ => (.ok (), s.erase name)
    | none => (.error .os, s)
  | .fsync, s => (.ok (), s)
  | .metadata name, s =>
    match s.releases.get? name with
    | some tree => (tree.version env, s)
    | none => (.error .os, s)
  | .readlink, s => (s.current, s)
  | .symlink pid name, s =>
    match s.links.get? pid with
    | none => (.ok (), { s with links := s.links.set pid name })
    | some _ => (.error .os, s)
  | .replace pid back, s =>
    match s.links.get? pid with
    | some name => (.ok (), s.switch pid name back)
    | none => (.error .os, s)
  | .hasActivation, s => (s.activation.isSome, s)
  | .readActivation, s =>
    match s.activation with
    | some activation => (.ok activation, s)
    | none => (.error .os, s)
  | .isDir name, s => ((s.releases.get? name).isSome, s)
  | .writeActivation activation, s => (.ok (), s.record activation)
  | .iterdir, s => (.ok (s.releases.keys.filter fun name => name.toList.head? ≠ some '.'), s)

lemma Call.succeeds_run (env : Env) (c : Call) (s : Base) : Call.Run env c s (c.succeeds env s).1 (c.succeeds env s).2 := by
  cases c with
  | mkdir => exact .mkdir s
  | «exists» name => exact .exists s name
  | copytree payload name =>
    cases there : s.releases.get? name with
    | none => simpa [succeeds, there] using Call.Run.copytree s payload name there
    | some _ => simpa [succeeds, there] using Call.Run.notCopied s payload name
  | link name path =>
    cases there : s.releases.get? name with
    | none => simpa [succeeds, there] using Call.Run.notLinked s name path
    | some tree => simpa [succeeds, there] using Call.Run.link s name path tree there
  | writeMetadata name version sha256 =>
    cases there : s.releases.get? name with
    | none => simpa [succeeds, there] using Call.Run.notWritten s name version sha256
    | some tree => simpa [succeeds, there] using Call.Run.writeMetadata s name version sha256 tree _ there (.inl rfl)
  | publish name version =>
    cases there : s.releases.get? name with
    | none => simpa [succeeds, there] using Call.Run.notPublished s name version
    | some tree =>
      cases free : s.releases.get? version with
      | none => simpa [succeeds, there, free] using Call.Run.publish s name version tree there free
      | some _ => simpa [succeeds, there, free] using Call.Run.notPublished s name version
  | rmtree name =>
    cases there : s.releases.get? name with
    | none => simpa [succeeds, there] using Call.Run.notRemoved s name
    | some tree => simpa [succeeds, there] using Call.Run.rmtree s name tree there
  | fsync => exact .fsync s _ (.inl rfl)
  | metadata name =>
    cases there : s.releases.get? name with
    | none => simpa [succeeds, there] using Call.Run.noMetadata s name there
    | some tree => simpa [succeeds, there] using Call.Run.metadata s name tree there
  | readlink => exact .readlink s
  | symlink pid name =>
    cases there : s.links.get? pid with
    | none => simpa [succeeds, there] using Call.Run.symlink s pid name there
    | some _ => simpa [succeeds, there] using Call.Run.notSymlinked s pid name
  | replace pid back =>
    cases there : s.links.get? pid with
    | none => simpa [succeeds, there] using Call.Run.notReplaced s pid back
    | some name => simpa [succeeds, there] using Call.Run.replace s pid back name there
  | hasActivation => exact .hasActivation s
  | readActivation =>
    cases there : s.activation with
    | none => simpa [succeeds, there] using Call.Run.noActivation s there
    | some activation => simpa [succeeds, there] using Call.Run.readActivation s activation there
  | isDir name => exact .isDir s name
  | writeActivation activation => exact .writeActivation s activation _ (.inl rfl)
  | iterdir => exact .iterdir s _ (.refl _)

lemma rollback_returns (safe : Safe env rolls s) {activation : Activation} {version : String}
    (there : s.activation = some activation) (previous : activation.previous = some version) {pid : ℕ}
    (free : s.links.get? pid = none) :
    ∃ s', Program.Exec (machine env) (rollback pid ()) s (some (.ok (), ())) s' := by
  obtain ⟨⟨tree, present⟩, _⟩ := safe.previous activation version there previous
  have plays := Program.Exec.play (M := machine env) (e := Call.succeeds env) (Call.succeeds_run env) (rollback pid ()) s
  have returns : ((rollback pid ()).play (Call.succeeds env) s).1 = (.ok (), ()) := by
    simp [rollback, Call.succeeds, there, previous, present, free]
  exact ⟨_, returns ▸ plays⟩

/-- **The release layout is crash safe**: what is active is completely prepared, if nothing that is unfinished is
activated; and if the active release is not activated again, and each activation is recorded, then the release before
it is completely prepared too, and a rollback goes back to it. -/
theorem layout_crash_safe (env : Env) :
    (∀ s, Runs env (fun command s _ => Whole env command s) s → ∀ version, s.current = some version →
      s.Complete env version) ∧
    ∀ s, Runs env (Orderly env) s → (∀ version, s.current = some version ∨ s.target = some version →
      s.Complete env version) ∧ s.RollsBack env := by
  refine ⟨fun s runs version is => runs.safe.complete (runs.safe.current version is), fun s runs => ?_⟩
  obtain ⟨safe, recorded⟩ := runs.recorded
  refine ⟨?_, fun version is => ⟨fun pid s' exec => ?_, fun pid free => ?_⟩⟩
  · rintro version (is | is)
    · exact safe.complete (safe.current version is)
    · exact safe.complete (safe.target trivial version is).1
  · exact ((rollback_sure safe pid fun _ => recorded).exec exec).2.1 () () rfl trivial version is
  · obtain ⟨activation, there, previous⟩ :=
      (safe.target trivial version is).2 (recorded.resolve_right (by simp [is]))
    exact rollback_returns safe there previous free

/-! ## Played runs -/

def plain : Env := ⟨id, fun _ => .ok none⟩

def payloadOf (version : String) : Tree := (∅ : Tree).set "VERSION" (.file version)

def after {α : Type} (script : Process α) (s : Base) : Base := ((script ()).play (Call.succeeds plain) s).2

lemma exec_after {α : Type} (script : Process α) (s : Base) :
    Program.Exec (machine plain) (script ()) s (some ((script ()).play (Call.succeeds plain) s).1) (after script s) :=
  Program.Exec.play (Call.succeeds_run plain) _ s

def installed : Base :=
  after (activate 1 "1.0") (after (prepare plain 1 (payloadOf "1.1") "1.1") (after (prepare plain 1 (payloadOf "1.0") "1.0") {}))

def updated : Base := after (activate 1 "1.1") installed

lemma runs_installed {C : Command → Base → Base → Prop} (orderly : ∀ command s s', Orderly plain command s s' → C command s s') :
    Runs plain C installed := by
  refine .step (.step (.step (.init rfl) ⟨.prepare (payloadOf "1.0") "1.0", ?_, .prepare 1 _ _ _ _ _ (exec_after _ _)⟩)
    ⟨.prepare (payloadOf "1.1") "1.1", ?_, .prepare 1 _ _ _ _ _ (exec_after _ _)⟩)
    ⟨.activate "1.0", ?_, .activate 1 _ _ _ _ (exec_after _ _)⟩ <;> apply orderly
  · exact ⟨fun _ _ other => Command.noConfusion other, fun _ other => Command.noConfusion other, .inl (by decide +kernel)⟩
  · exact ⟨fun _ _ other => Command.noConfusion other, fun _ other => Command.noConfusion other, .inl (by decide +kernel)⟩
  · refine ⟨?_, ?_, .inl (by decide +kernel)⟩
    · rintro _ tree ⟨⟩ - -
      decide +kernel
    · rintro _ ⟨⟩ -
      decide +kernel

lemma runs_updated : Runs plain (Orderly plain) updated := by
  refine .step (runs_installed fun _ _ _ => id) ⟨.activate "1.1", ⟨?_, ?_, .inl (by decide +kernel)⟩, .activate 1 _ _ _ _ (exec_after _ _)⟩
  · rintro _ tree ⟨⟩ - -
    decide +kernel
  · rintro _ ⟨⟩ -
    decide +kernel

theorem layout_crash_safe_updated : updated.current = some "1.1" ∧ updated.target = some "1.0" ∧
    updated.Complete plain "1.0" ∧ updated.RollsBack plain := by
  have current : updated.current = some "1.1" := by decide +kernel
  have target : updated.target = some "1.0" := by decide +kernel
  have safe := (layout_crash_safe plain).2 updated runs_updated
  exact ⟨current, target, safe.1 "1.0" (.inr target), safe.2⟩

/-- A prepared release has a `VERSION`. -/
lemma Prepared.named {version : String} {tree : Tree} (prepared : Prepared env version tree) :
    tree.get? "VERSION" ≠ none := by
  obtain ⟨-, payload, text, digest, names, -, -, rfl⟩ := prepared
  have copied : (code payload).get? "VERSION" = some (.file text) := by
    refine Dict.mem_entries_iff.1 (List.mem_filter.2 ⟨Dict.mem_entries_iff.2 names, ?_⟩)
    show decide (¬ Mutable "VERSION") = true
    decide
  simp [release, MUTABLE, copied]

def repeated : Base := after (activate 1 "1.1") updated

/-- A third release is activated, and the process ends when `current` has been replaced. -/
def unrecorded : Base :=
  (activate 1 "1.2" ()).playFor (Call.succeeds plain) 4 (after (prepare plain 1 (payloadOf "1.2") "1.2") updated)

/-- The second release is discarded, and the process ends when its `VERSION` is gone. -/
def halved : Base := installed.begin "1.1" ((∅ : Tree).set ".release.json" (.metadata "1.1" "F\x00VERSION\x001.1"))

/-- **The release layout is not crash safe**: a release that is activated twice is its own rollback target, one whose
activation is cut off leaves the target of the one before, and a release that is removed in part is activated. -/
theorem layout_goes_astray :
    (∃ s s', Runs plain (fun _ _ _ => True) s ∧ s.target = some "1.0" ∧
      Program.Exec (machine plain) (rollback 1 ()) s (some (.ok (), ())) s' ∧ s'.current = some "1.1") ∧
    (∃ s s', Runs plain (fun _ _ _ => True) s ∧ s.target = some "1.1" ∧
      Program.Exec (machine plain) (rollback 2 ()) s (some (.ok (), ())) s' ∧ s'.current = some "1.0") ∧
    ∃ s, Runs plain (fun _ _ _ => True) s ∧ s.current = some "1.1" ∧ ¬ s.Complete plain "1.1" := by
  have installed_ : Runs plain (fun _ _ _ => True) installed := runs_installed fun _ _ _ _ => trivial
  have updated_ : Runs plain (fun _ _ _ => True) updated :=
    .step installed_ ⟨.activate "1.1", trivial, .activate 1 _ _ _ _ (exec_after _ _)⟩
  refine ⟨⟨repeated, after (rollback 1) repeated, ?_, by decide +kernel, exec_after _ _, by decide +kernel⟩,
    ⟨unrecorded, after (rollback 2) unrecorded, ?_, by decide +kernel, exec_after _ _, by decide +kernel⟩,
    after (activate 1 "1.1") halved, ?_, by decide +kernel, ?_⟩
  · exact .step updated_ ⟨.activate "1.1", trivial, .activate 1 _ _ _ _ (exec_after _ _)⟩
  · refine .step (.step updated_ ⟨.prepare (payloadOf "1.2") "1.2", trivial, .prepare 1 _ _ _ _ _ (exec_after _ _)⟩)
      ⟨.activate "1.2", trivial, .activate 1 _ _ _ none (Program.Exec.playFor ?_ 4 _ _)⟩
    exact Call.succeeds_run plain
  · refine .step (.step installed_ ⟨.discard "1.1", trivial, .discard "1.1" installed halved none ?_⟩)
      ⟨.activate "1.1", trivial, .activate 1 _ _ _ _ (exec_after _ _)⟩
    refine .call _ _ _ installed _ _ _ (.exists installed "1.1") ?_
    refine .call _ _ _ installed _ _ _ (.readlink installed) ?_
    refine .call _ _ _ installed _ _ _ (.readActivation installed ⟨"1.0", none⟩ (by decide +kernel)) ?_
    have cut : Call.Cut (.rmtree "1.1") installed halved := .rmtree installed "1.1" _ _ rfl (by decide +kernel)
    exact .torn _ _ _ _ cut
  · rintro ⟨tree, there, prepared⟩
    refine prepared.named ?_
    have left : ((after (activate 1 "1.1") halved).releases.get? "1.1").bind (·.get? "VERSION") = none := by decide +kernel
    simpa [there] using left

end Vertep.Layout
