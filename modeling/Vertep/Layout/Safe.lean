import Vertep.Layout.Runs

/-!
# A rollback target that stays (`scripts/release-layout.py`)

What `current` links to and what `.activation.json` names as the previous release are whole and stay so, whatever is
prepared, discarded and pruned; and the previous release that is recorded is the one before the active release.
-/

namespace Vertep.Layout
open Lib Script Relation

variable {env : Env} {rolls : Prop} {s s' : Base} {name : String}

/-- What goes through a tree, and can be cut off within. -/
def Call.Walks : Call → Prop
  | .copytree .. | .rmtree .. => True
  | _ => False

lemma Call.Cut.walks {c : Call} (cut : Call.Cut c s s') : c.Walks := by
  cases cut <;> exact trivial

/-- A call that does not walk takes effect or does not. -/
lemma sure_whole {α : Type} {c : Call} {f : c.Reply → Process α} {guar : Base → Base → Prop} {Q : α → Unit → Base → Prop}
    {X : Failure → Unit → Base → Prop} (whole : ¬ c.Walks)
    (next : ∀ r s', c.Run env s r s' → guar s s' ∧ (f r).Sure (machine env) Eq guar Q X () s') :
    (ask c >>= f).Sure (machine env) Eq guar Q X () s :=
  sure_ask_bind.2 ⟨fun _ cut => (whole (Call.Cut.walks cut)).elim, next⟩

/-! ## What is kept -/

def Base.Finished (s : Base) (name : String) : Prop := (∃ tree, s.releases.get? name = some tree) ∧ name ∉ s.unfinished

/-- What holds between any two calls; where `rolls`, also of the release that a rollback goes back to. -/
structure Safe (env : Env) (rolls : Prop) (s : Base) : Prop where
  prepared : ∀ name tree, s.releases.get? name = some tree → name ∉ s.unfinished → Prepared env name tree
  current : ∀ name, s.current = some name → s.Finished name
  previous : ∀ activation name, s.activation = some activation → activation.previous = some name → s.Finished name
  target : rolls → ∀ name, s.target = some name → s.Finished name ∧
    (s.recorded = true → ∃ activation, s.activation = some activation ∧ activation.previous = some name)

def Keeps (env : Env) (rolls : Prop) (s s' : Base) : Prop := Safe env rolls s → Safe env rolls s'

lemma Safe.complete (safe : Safe env rolls s) (finished : s.Finished name) : s.Complete env name := by
  obtain ⟨⟨tree, there⟩, whole⟩ := finished
  exact ⟨tree, there, safe.prepared name tree there whole⟩

lemma Safe.version (safe : Safe env rolls s) (finished : s.Finished name) : Version name := by
  obtain ⟨_, _, prepared⟩ := safe.complete finished
  exact prepared.1

/-- Nothing refers to the directory. -/
structure Base.Apart (rolls : Prop) (s : Base) (name : String) : Prop where
  current : s.current ≠ some name
  previous : ∀ activation, s.activation = some activation → activation.previous ≠ some name
  target : rolls → s.target ≠ some name

lemma Safe.apart (safe : Safe env rolls s) (staged : ¬ Version name) : s.Apart rolls name where
  current is := staged (safe.version (safe.current name is))
  previous activation there is := staged (safe.version (safe.previous activation name there is))
  target holds is := staged (safe.version (safe.target holds name is).1)

/-- Only what stands in one directory changes, and it is not whole then. -/
structure Touches (name : String) (s s' : Base) : Prop where
  releases : ∀ other, other ≠ name → s'.releases.get? other = s.releases.get? other
  unfinished : ∀ other, other ≠ name → (other ∈ s'.unfinished ↔ other ∈ s.unfinished)
  here : s'.releases.get? name = none ∨ name ∈ s'.unfinished
  current : s'.current = s.current
  activation : s'.activation = s.activation
  target : s'.target = s.target
  recorded : s'.recorded = s.recorded

lemma touches_begin (s : Base) (name : String) (part : Tree) : Touches name s (s.begin name part) where
  releases other ne := by simp [Base.begin, Ne.symm ne]
  unfinished other ne := by simp [Base.begin, ne]
  here := .inr List.mem_cons_self
  current := rfl
  activation := rfl
  target := rfl
  recorded := rfl

lemma touches_put (s : Base) (tree : Tree) (begun : name ∈ s.unfinished) : Touches name s (s.put name tree) where
  releases other ne := by simp [Base.put, Ne.symm ne]
  unfinished _ _ := Iff.rfl
  here := .inr begun
  current := rfl
  activation := rfl
  target := rfl
  recorded := rfl

lemma touches_erase (s : Base) (name : String) : Touches name s (s.erase name) where
  releases other ne := by simp [Base.erase, Ne.symm ne]
  unfinished other ne := by simp [Base.erase, ne]
  here := .inl (by simp [Base.erase])
  current := rfl
  activation := rfl
  target := rfl
  recorded := rfl

variable {other version : String}

lemma Touches.finished (touches : Touches name s s') (ne : other ≠ name) (finished : s.Finished other) :
    s'.Finished other := by
  obtain ⟨⟨tree, there⟩, whole⟩ := finished
  exact ⟨⟨tree, (touches.releases other ne).trans there⟩, fun mem => whole ((touches.unfinished other ne).1 mem)⟩

lemma Touches.apart (touches : Touches name s s') (apart : s.Apart rolls other) :
    s'.Apart rolls other where
  current := touches.current ▸ apart.current
  previous := touches.activation ▸ apart.previous
  target := touches.target ▸ apart.target

lemma Touches.safe (touches : Touches name s s') (apart : s.Apart rolls name) (safe : Safe env rolls s) :
    Safe env rolls s' where
  prepared other tree there whole := by
    by_cases same : other = name
    · subst same
      rcases touches.here with gone | begun
      · cases gone.symm.trans there
      · exact absurd begun whole
    · refine safe.prepared other tree ((touches.releases other same).symm.trans there) fun mem => ?_
      exact whole ((touches.unfinished other same).2 mem)
  current other is := by
    have is := touches.current.symm.trans is
    exact touches.finished (fun same => apart.current (same ▸ is)) (safe.current other is)
  previous activation other there is := by
    have there := touches.activation.symm.trans there
    exact touches.finished (fun same => apart.previous activation there (same ▸ is)) (safe.previous activation other there is)
  target holds other is := by
    have is := touches.target.symm.trans is
    obtain ⟨finished, recorded⟩ := safe.target holds other is
    rw [touches.recorded, touches.activation]
    exact ⟨touches.finished (fun same => apart.target holds (same ▸ is)) finished, recorded⟩

lemma Touches.keeps (touches : Touches name s s') (staged : ¬ Version name) : Keeps env rolls s s' := fun safe =>
  touches.safe (safe.apart staged) safe

lemma not_version_of_dot {text : List Char} (is : name.toList = '.' :: text) : ¬ Version name := by
  rintro ⟨-, -, numbers, -⟩
  rw [is] at numbers
  have dot : (('.' :: text).takeWhile fun c => c ≠ '-' ∧ c ≠ '+') = '.' :: text.takeWhile fun c => c ≠ '-' ∧ c ≠ '+' := by
    simp
  have split := List.splitOn_append_cons_self (a := '.') [] (text.takeWhile fun c => c ≠ '-' ∧ c ≠ '+')
  rw [dot, ← List.nil_append ('.' :: _), split] at numbers
  exact (numbers [] (by simp)).1 rfl

lemma not_version_staging (version : String) (pid : ℕ) : ¬ Version (staging version pid) :=
  not_version_of_dot (by simp [staging]; rfl)

/-! ## `prepare` -/

lemma Keeps.refl (s : Base) : Keeps env rolls s s := id

variable {payload tree : Tree}

lemma Call.Cut.keeps_copytree (cut : Call.Cut (.copytree payload name) s s') (staged : ¬ Version name) :
    Keeps env rolls s s' := by
  cases cut with
  | copytree _ _ _ part => exact (touches_begin s name part).keeps staged

lemma Call.Cut.touches_rmtree (cut : Call.Cut (.rmtree name) s s') : Touches name s s' := by
  cases cut with
  | rmtree _ _ _ part => exact touches_begin s name part
  | removed => exact touches_erase s name

lemma Call.Run.touches_rmtree {reply : Except Failure Unit} (ran : Call.Run env (.rmtree name) s reply s') :
    s' = s ∨ Touches name s s' := by
  cases ran with
  | rmtree => exact .inr (touches_erase s name)
  | notRemoved => exact .inl rfl
  | removedPart _ _ _ cut => exact .inr cut.touches_rmtree

lemma linkAll_sure (staged : ¬ Version name) (names : List String) (there : s.releases.get? name = some tree)
    (begun : name ∈ s.unfinished) :
    (linkAll name names).Sure (machine env) Eq (Keeps env rolls)
      (fun _ _ s' => s'.releases.get? name = some (names.foldl (fun tree path => tree.set path (shared path)) tree) ∧
        name ∈ s'.unfinished) (fun _ _ _ => True) () s := by
  induction names generalizing s tree with
  | nil => simp [linkAll, there, begun]
  | cons path names ih =>
    refine sure_whole id fun reply s' ran => ?_
    cases ran with
    | notLinked => exact ⟨.refl s, sure_require_bind.2 (by simp)⟩
    | link _ _ _ tree' there' =>
      cases there.symm.trans there'
      refine ⟨(touches_put s _ begun).keeps staged, sure_require_bind.2 ⟨fun _ _ => ?_, by simp⟩⟩
      exact ih (by simp [Base.put]) begun

lemma keeps_publish (staged : ¬ Version name) (prepared : Prepared env version tree)
    (free : s.releases.get? version = none) : Keeps env rolls s (s.publish name version tree) := by
  intro safe
  have kept : ∀ other, s.Finished other → (s.publish name version tree).Finished other := by
    rintro other finished
    have ne : name ≠ other := fun same => staged (same ▸ safe.version finished)
    obtain ⟨⟨tree', there⟩, whole⟩ := finished
    have new : version ≠ other := by
      rintro rfl
      cases free.symm.trans there
    exact ⟨⟨tree', by simp [Base.publish, ne, new, there]⟩, fun mem => whole (List.mem_of_mem_filter mem)⟩
  refine ⟨fun other tree' there whole => ?_, fun other is => kept other (safe.current other is),
    fun activation other there is => kept other (safe.previous activation other there is), fun holds other is => ?_⟩
  · simp only [Base.publish, Dict.get?_set, Dict.get?_pop] at there
    split at there
    · next same =>
      cases there
      exact same ▸ prepared
    · next new =>
      split at there
      · cases there
      · next ne =>
        refine safe.prepared other tree' there fun mem => whole ?_
        simp [Base.publish, mem, Ne.symm ne, Ne.symm new]
  · obtain ⟨finished, recorded⟩ := safe.target holds other is
    exact ⟨kept other finished, recorded⟩

lemma materialize_sure {text digest : String} (staged : ¬ Version name) (valid : Version version)
    (names : payload.get? "VERSION" = some (.file text)) (same : Core.strip text = version)
    (hashes : treeDigest env payload = .ok digest) :
    (materialize payload version digest name).Sure (machine env) Eq (Keeps env rolls) (fun _ _ _ => True)
      (fun _ _ _ => True) () s := by
  refine sure_ask_bind.2 ⟨fun _ cut => cut.keeps_copytree staged, fun reply s₁ ran => ?_⟩
  cases ran with
  | notCopied => exact ⟨.refl s, sure_require_bind.2 (by simp)⟩
  | copiedPart _ _ _ _ cut => exact ⟨cut.keeps_copytree staged, sure_require_bind.2 (by simp)⟩
  | copytree =>
    refine ⟨(touches_begin s name (code payload)).keeps staged, sure_require_bind.2 ⟨fun _ _ => ?_, by simp⟩⟩
    have copied : (s.begin name (code payload)).releases.get? name = some (code payload) := by simp [Base.begin]
    refine (sure_bind _ _).2 ((linkAll_sure staged MUTABLE copied List.mem_cons_self).mono (fun _ _ => id) ?_ (by simp))
    rintro ⟨⟩ _ s₂ ⟨linked, begun⟩
    refine sure_whole id fun reply s₃ ran => ?_
    cases ran with
    | notWritten => exact ⟨.refl s₂, sure_require_bind.2 (by simp)⟩
    | writeMetadata _ _ _ _ tree _ there reply =>
      cases linked.symm.trans there
      refine ⟨(touches_put s₂ _ begun).keeps staged, sure_require_bind.2 ⟨fun _ _ => ?_, by simp⟩⟩
      refine sure_whole id fun reply s₄ ran => ?_
      cases ran with
      | notPublished => exact ⟨.refl _, by simp⟩
      | publish _ _ _ tree there free =>
        have is : some (release payload version digest) = some tree := by
          simpa [Base.put, release] using there
        obtain rfl := Option.some.inj is
        exact ⟨keeps_publish staged ⟨valid, payload, text, digest, names, same, hashes, rfl⟩ free, by simp⟩

lemma prepare_sure (pid : ℕ) (payload : Tree) (version : String) :
    (prepare env pid payload version).Sure (machine env) Eq (Keeps env rolls) (fun _ _ _ => True) (fun _ _ _ => True) ()
      s := by
  by_cases valid : Version version
  swap
  · simp [prepare, valid]
  simp only [prepare, valid, not_true_eq_false, if_false]
  cases names : payload.get? "VERSION" with
  | none => simp
  | some entry =>
    cases entry with
    | symlink => simp
    | metadata => simp
    | file text =>
      by_cases same : Core.strip text = version
      swap
      · simp [same]
      simp only [same, ne_eq, not_true_eq_false, if_false]
      refine sure_whole id fun reply s₁ ran => ?_
      obtain rfl : s₁ = s := by cases ran <;> rfl
      refine ⟨.refl _, sure_require_bind.2 ⟨fun _ _ => ?_, by simp⟩⟩
      refine sure_whole id fun present s₂ ran => ?_
      cases ran
      refine ⟨.refl _, ?_⟩
      split
      · simp
      refine sure_require_bind.2 ⟨fun digest hashes => ?_, by simp⟩
      have staged := not_version_staging version pid
      refine (sure_bind _ _).2 ((sure_rescue _ _).2 ((materialize_sure staged valid names same hashes).mono
        (fun _ _ => id) ?_ ?_))
      · rintro ⟨⟩ _ s₃ _ _ rfl
        refine sure_whole id fun reply s₄ ran => ?_
        cases ran
        exact ⟨.refl _, sure_require_bind.2 (by simp)⟩
      · rintro failure _ s₃ _
        refine sure_ask_bind.2 ⟨fun _ cut => cut.touches_rmtree.keeps staged, fun reply s₄ ran => ⟨?_, by simp⟩⟩
        rcases ran.touches_rmtree with rfl | touches
        · exact .refl _
        · exact touches.keeps staged

/-! ## `activate` and `rollback` -/

lemma Safe.links (safe : Safe env rolls s) (links : Dict ℕ String) : Safe env rolls { s with links := links } :=
  ⟨safe.prepared, safe.current, safe.previous, safe.target⟩

lemma Safe.switch (safe : Safe env rolls s) (finished : s.Finished name) (pid : ℕ) (back : Bool) :
    Safe env rolls (s.switch pid name back) where
  prepared := safe.prepared
  current other is := by
    cases is
    exact finished
  previous := safe.previous
  target holds other is := by
    refine ⟨?_, fun unrecorded => Bool.noConfusion unrecorded⟩
    simp only [Base.switch] at is
    split at is
    · cases is
    · split at is
      · exact (safe.target holds other is).1
      · exact safe.current other is

lemma Safe.record (safe : Safe env rolls s) {activation : Activation}
    (finished : ∀ name, activation.previous = some name → s.Finished name)
    (target : rolls → ∀ name, s.target = some name → activation.previous = some name) :
    Safe env rolls (s.record activation) where
  prepared := safe.prepared
  current := safe.current
  previous other name is previous := by
    cases is
    exact finished name previous
  target holds name is := ⟨(safe.target holds name is).1, fun _ => ⟨activation, rfl, target holds name is⟩⟩

/-- The link of a process replaces `current`, and the activation is recorded. -/
lemma switch_sure (safe : Safe env rolls s) (finished : s.Finished name) (pid : ℕ) (back : Bool) {activation : Activation}
    (previous : ∀ other, activation.previous = some other → s.Finished other)
    (target : rolls → ∀ other, (s.switch pid name back).target = some other → activation.previous = some other) :
    (do
      require (← ask (.symlink pid name))
      require (← ask (.replace pid back))
      require (← ask .fsync)
      require (← ask (.writeActivation activation)) : Process Unit).Sure (machine env) Eq (Keeps env rolls)
        (fun _ _ s' => s'.current = some name ∧ s'.recorded = true) (fun _ _ _ => True) () s := by
  refine sure_whole id fun reply s₁ ran => ?_
  cases ran with
  | notSymlinked => exact ⟨.refl s, sure_require_bind.2 (by simp)⟩
  | symlink =>
    refine ⟨fun _ => safe.links _, sure_require_bind.2 ⟨fun _ _ => ?_, by simp⟩⟩
    have linked : ({ s with links := s.links.set pid name } : Base).links.get? pid = some name := by simp
    refine sure_whole id fun reply s₂ ran => ?_
    cases ran with
    | notReplaced => exact ⟨.refl _, sure_require_bind.2 (by simp)⟩
    | replace _ _ _ other there =>
      obtain rfl := Option.some.inj (linked.symm.trans there)
      have switched := (safe.links (s.links.set pid name)).switch finished pid back
      refine ⟨fun _ => switched, sure_require_bind.2 ⟨fun _ _ => ?_, by simp⟩⟩
      refine (sure_bind _ _).2 ((sure_ask _).2 ?_)
      rintro _ rfl
      refine ⟨fun _ cut => False.elim (Call.Cut.walks cut), fun reply s₃ ran => ?_⟩
      cases ran
      refine ⟨.refl _, ?_⟩
      rintro _ rfl
      refine sure_require_bind.2 ⟨fun _ _ => ?_, by simp⟩
      refine sure_whole id fun reply s₄ ran => ?_
      cases ran with
      | notRecorded => exact ⟨.refl _, by simp⟩
      | writeActivation => exact ⟨fun _ => switched.record previous target, by simp [Base.record, Base.switch]⟩

lemma activate_sure (safe : Safe env rolls s) (pid : ℕ) (version : String)
    (whole : ∀ tree, s.releases.get? version = some tree → tree.version env = .ok (some version) →
      version ∉ s.unfinished)
    (another : rolls → s.current = some version → s.target = none) :
    (activate pid version).Sure (machine env) Eq (Keeps env rolls) (fun _ _ s' => s'.recorded = true)
      (fun _ _ _ => True) () s := by
  refine sure_whole id fun reply s' ran => ?_
  cases ran with
  | noMetadata => exact ⟨.refl s, sure_require_bind.2 (by simp)⟩
  | metadata _ _ tree there =>
    refine ⟨.refl s, sure_require_bind.2 ⟨fun found is => ?_, by simp⟩⟩
    by_cases same : found = some version
    · simp only [same, ne_eq, not_true_eq_false, if_false]
      have finished : s.Finished version := ⟨⟨tree, there⟩, whole tree there (is.trans (congrArg _ same))⟩
      refine sure_whole id fun previous s' ran => ?_
      cases ran
      refine ⟨.refl s, (switch_sure safe finished pid false (fun other is => safe.current other is) ?_).mono
        (fun _ _ => id) (fun _ _ _ => And.right) (by simp)⟩
      intro holds other is
      simp only [Base.switch, Bool.false_eq_true, if_false] at is
      split at is
      · next again => cases (another holds again).symm.trans is
      · exact is
    · simp [same]

lemma rollback_sure (safe : Safe env rolls s) (pid : ℕ) (recorded : rolls → s.recorded = true ∨ s.target = none) :
    (rollback pid).Sure (machine env) Eq (Keeps env rolls)
      (fun _ _ s' => rolls → ∀ version, s.target = some version → s'.current = some version) (fun _ _ _ => True) () s := by
  have named : rolls → ∀ version, s.target = some version →
      ∃ activation, s.activation = some activation ∧ activation.previous = some version := by
    intro holds version is
    refine (safe.target holds version is).2 ((recorded holds).resolve_right ?_)
    simp [is]
  refine sure_whole id fun activated s' ran => ?_
  cases ran
  refine ⟨.refl s, sure_whole id fun current s' ran => ?_⟩
  cases ran
  refine ⟨.refl s, ?_⟩
  split
  · next nothing =>
    simp only [sure_pure, forall_eq']
    intro holds version is
    obtain ⟨activation, there, _⟩ := named holds version is
    simp [there] at nothing
  · refine sure_whole id fun reply s' ran => ?_
    cases ran with
    | noActivation => exact ⟨.refl s, sure_require_bind.2 (by simp)⟩
    | readActivation _ activation there =>
      refine ⟨.refl s, sure_require_bind.2 ⟨fun _ same => ?_, by simp⟩⟩
      cases same
      cases previous : activation.previous with
      | none => simp
      | some previous_ =>
        have finished : s.Finished previous_ := safe.previous activation previous_ there previous
        refine sure_whole id fun isDir s' ran => ?_
        cases ran
        refine ⟨.refl s, ?_⟩
        obtain ⟨tree, present⟩ := finished.1
        simp only [present, Option.isSome_some, Bool.true_eq_false, if_false]
        refine (switch_sure safe finished pid true (by simp) (by simp [Base.switch])).mono (fun _ _ => id) ?_ (by simp)
        rintro ⟨⟩ _ s' gone holds version is
        obtain ⟨activation', there', names⟩ := named holds version is
        cases there.symm.trans there'
        cases previous.symm.trans names
        exact gone.1

/-! ## `discard` and `prune` -/

lemma rmtree_bind {α : Type} {f : Process α} {Q : α → Unit → Base → Prop} (safe : Safe env rolls s)
    (apart : s.Apart rolls name)
    (next : ∀ s', Safe env rolls s' → Touches name s s' → f.Sure (machine env) Eq (Keeps env rolls) Q (fun _ _ _ => True) () s') :
    (do
      require (← ask (Call.rmtree name))
      f : Process α).Sure (machine env) Eq (Keeps env rolls) Q (fun _ _ _ => True) () s := by
  refine sure_ask_bind.2 ⟨fun s' cut => cut.touches_rmtree.safe apart, fun reply s' ran => ?_⟩
  cases ran with
  | notRemoved => exact ⟨.refl s, sure_require_bind.2 (by simp)⟩
  | removedPart _ _ _ cut => exact ⟨cut.touches_rmtree.safe apart, sure_require_bind.2 (by simp)⟩
  | rmtree =>
    have touches := touches_erase s name
    exact ⟨touches.safe apart, sure_require_bind.2 ⟨fun _ _ => next _ (touches.safe apart safe) touches, by simp⟩⟩

lemma Safe.apart_of (safe : Safe env rolls s) (recorded : rolls → s.recorded = true ∨ s.target = none)
    (current : s.current ≠ some name)
    (previous : ∀ activation, s.activation = some activation → activation.previous ≠ some name) : s.Apart rolls name where
  current := current
  previous := previous
  target holds is := by
    obtain ⟨activation, there, names⟩ := (safe.target holds name is).2 ((recorded holds).resolve_right (by simp [is]))
    exact previous activation there names

lemma discard_sure (safe : Safe env rolls s) (recorded : rolls → s.recorded = true ∨ s.target = none) (version : String) :
    (discard version).Sure (machine env) Eq (Keeps env rolls) (fun _ _ _ => True) (fun _ _ _ => True) () s := by
  by_cases valid : Version version
  swap
  · simp [discard, valid]
  simp only [discard, valid, not_true_eq_false, if_false]
  refine sure_whole id fun there s' ran => ?_
  cases ran
  refine ⟨.refl s, ?_⟩
  split
  swap
  · simp
  refine sure_whole id fun current s' ran => ?_
  cases ran
  refine ⟨.refl s, sure_whole id fun reply s' ran => ?_⟩
  have same : s' = s := by cases ran <;> rfl
  subst same
  refine ⟨.refl _, ?_⟩
  split
  · simp
  next free =>
  have apart : Base.Apart rolls s' version := by
    refine safe.apart_of recorded (fun is => free ?_) fun activation there names => free ?_
    · simp [is]
    · cases ran with
      | noActivation _ absent => cases absent.symm.trans there
      | readActivation _ activation' there' =>
        cases there.symm.trans there'
        simp [referenced, names]
  refine rmtree_bind safe apart fun s₁ _ _ => ?_
  refine sure_whole id fun reply s₂ ran => ?_
  cases ran
  exact ⟨.refl _, sure_require_bind.2 (by simp)⟩

lemma removeAll_sure (safe : Safe env rolls s) (kept names : List String) (apart : ∀ name, name ∉ kept → s.Apart rolls name) :
    (removeAll kept names).Sure (machine env) Eq (Keeps env rolls) (fun _ _ _ => True) (fun _ _ _ => True) () s := by
  induction names generalizing s with
  | nil => simp [removeAll]
  | cons name names ih =>
    unfold removeAll
    split
    · exact ih safe apart
    next free =>
    refine rmtree_bind safe (apart name free) fun s' safe' touches => ?_
    refine (sure_bind _ _).2 ((ih safe' fun other free' => touches.apart (apart other free')).mono (fun _ _ => id) ?_ (by simp))
    simp

lemma prune_sure (safe : Safe env rolls s) (recorded : rolls → s.recorded = true ∨ s.target = none) (keep : ℤ) :
    (prune keep).Sure (machine env) Eq (Keeps env rolls) (fun _ _ _ => True) (fun _ _ _ => True) () s := by
  by_cases few : keep < 2
  · simp [prune, few]
  simp only [prune, few, if_false]
  refine sure_whole id fun reply s' ran => ?_
  have same : s' = s := by cases ran <;> rfl
  subst same
  refine ⟨.refl _, sure_whole id fun current s'' ran' => ?_⟩
  cases ran'
  refine ⟨.refl _, sure_whole id fun listed s'' ran' => ?_⟩
  have same : s'' = s' := by cases ran' <;> rfl
  subst same
  refine ⟨.refl _, sure_require_bind.2 ⟨fun candidates _ => ?_, by simp⟩⟩
  refine (sure_bind _ _).2 ((removeAll_sure safe _ candidates fun name free => ?_).mono (fun _ _ => id) ?_ (by simp))
  · refine safe.apart_of recorded (fun is => free ?_) fun activation there names => free ?_
    · simp [is]
    · cases ran with
      | noActivation _ absent => cases absent.symm.trans there
      | readActivation _ activation' there' =>
        cases there.symm.trans there'
        simp [shielded, names]
  · rintro removed _ s₁ _
    split
    · refine sure_whole id fun reply s₂ ran => ?_
      cases ran
      exact ⟨.refl _, sure_require_bind.2 (by simp)⟩
    · simp

end Vertep.Layout
