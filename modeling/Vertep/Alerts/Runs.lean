import Vertep.Alerts.Store
import Vertep.Lib.Maximum
import Vertep.Lib.Reach

/-!
# Runs of the alert store (`core/alert_store.py`)

What an alert is about does not change while it is stored, and only one active alert is about the same: as long as what
is recorded says its type, names something, and can be told apart by its key from the active alerts that are about
something else; and as long as the alert that was recorded last is still stored when the store is loaded again.
-/

namespace Vertep.Alerts
open Lib

/-- A call of the alert store. -/
inductive Call where
  | record (clock : Clock) (alert : Fields)
  | resolve (clock : Clock) (pattern : Fields) (reason : Value)
  | acknowledge (clock : Clock) (id : String) (actor : Value)
  | load

variable (env : Env)

/-- The store after a call; where `load` raises there is none. -/
def Call.run (w : World) : Call → Option World
  | .record clock alert => some (Alerts.record env clock alert w).2
  | .resolve clock pattern reason => some (Alerts.resolve env clock pattern reason w).2
  | .acknowledge clock id actor => some (Alerts.acknowledge env clock id actor w).2
  | .load => Alerts.load env w

/-- A key that active alerts have is of alerts that are about the same. -/
def Tells (w : World) (alert : Fields) : Prop := ∀ a ∈ w.alerts, isActive a.fields → alertKey env a.fields = alertKey env alert →
  identity a.fields = identity alert

/-- What an alert that is recorded may not change of the one that it refreshes. -/
def Refreshes (w : World) (alert : Fields) : Prop := ∀ a ∈ w.alerts, isActive a.fields →
  alertKey env a.fields = alertKey env alert →
    (∀ id, given alert "id" = some id → a.fields.get? "id" = some id) ∧
    ∀ state, given alert "state" = some state → state = .str "firing" ∨ state = .str "acknowledged"

/-- The condition of a call. -/
def Call.Meets (w : World) : Call → Prop
  | .record _ alert => (alert.get? "type").isSome ∧ alertKey env alert ≠ "" ∧ Tells env w alert ∧ Refreshes env w alert
  | .resolve _ pattern _ => Tells env w pattern
  | .acknowledge .. => True
  | .load => w.seq = 0 ∨ ∃ a ∈ w.alerts, a.fields.get? "id" = some (.str (toString w.seq))

def Step (C : World → Call → Prop) (w w' : World) : Prop := ∃ call, C w call ∧ call.run env w = some w'

/-- The stores after any calls that meet `C`, from an empty one. -/
def Runs (C : World → Call → Prop) : World → Prop := Reach (· = {}) (Step env C)

/-! ## What is claimed -/

/-- At most one alert about the same is active, and no id has been given twice. -/
structure Holds (w : World) : Prop where
  one : ∀ a ∈ w.alerts, ∀ b ∈ w.alerts, isActive a.fields → isActive b.fields → identity a.fields = identity b.fields → a = b
  ids : ∀ entity entity' id, (entity, id) ∈ w.ids → (entity', id) ∈ w.ids → entity = entity'

/-- An alert stays about the same, and an active one stays, and stays active unless it is resolved. -/
structure Keeps (w w' : World) (resolves : Fields → Prop) : Prop where
  same : ∀ a ∈ w.alerts, ∀ b ∈ w'.alerts, a.entity = b.entity → identity a.fields = identity b.fields
  stays : ∀ a ∈ w.alerts, isActive a.fields → ∃ b ∈ w'.alerts, b.entity = a.entity ∧ (isActive b.fields ∨ resolves a.fields)

/-- What a call does. -/
def Call.Right (w w' : World) : Call → Prop
  | .record clock alert =>
    -- the alert that is returned is the one about the same that was active, or a new one
    let r := (Alerts.record env clock alert w).1
    r ∈ w'.alerts ∧ isActive r.fields ∧ identity r.fields = identity alert ∧
      (∀ a ∈ w.alerts, isActive a.fields → identity a.fields = identity alert → r.entity = a.entity) ∧
      Keeps w w' fun _ => False
  | .resolve clock pattern reason =>
    -- the alerts that are resolved are those about the same that were active
    (∀ entity, entity ∈ (Alerts.resolve env clock pattern reason w).1.map Alert.entity ↔
      ∃ a ∈ w.alerts, a.entity = entity ∧ isActive a.fields ∧ identity a.fields = identity pattern) ∧
      Keeps w w' fun fields => identity fields = identity pattern
  | .acknowledge .. => Keeps w w' fun _ => False
  | .load => w'.alerts = w.alerts

/-! ## Fields -/

variable {env} {w w' : World}

variable {alert alert' existing record : Fields}

lemma alertKey_congr (same : identity alert = identity alert') :
    alertKey env alert = alertKey env alert' := by
  have each : ∀ field ∈ FIELDS, entry alert field = entry alert' field := List.map_inj_left.1 same
  rw [alertKey, alertKey]
  congr 1
  refine List.filterMap_congr fun field within => ?_
  rw [each field within]

lemma identity_congr (same : ∀ field ∈ FIELDS, alert.get? field = alert'.get? field) :
    identity alert = identity alert' := by
  refine List.map_congr_left fun field within => ?_
  rw [entry, entry, given, given, same field within]

variable {field : String}

lemma entry_eq (same : identity alert = identity alert') (within : field ∈ FIELDS) :
    entry alert field = entry alert' field := List.map_inj_left.1 same field within

variable {now reason : Value}

lemma identity_refreshed (same : identity existing = identity alert) :
    identity (refreshed now alert existing) = identity existing := by
  refine List.map_congr_left fun field within => ?_
  have other : field ≠ "updated_at" := by
    rintro rfl
    simp [FIELDS] at within
  have is : (refreshed now alert existing).get? field = (given alert field).or (existing.get? field) := by
    rw [refreshed, Dict.get?_set, if_neg other.symm, Dict.get?_update, Dict.get?_filter]
    rfl
  have same := entry_eq same within
  rw [entry, given, is]
  rcases gives : given alert field with _ | value
  · rfl
  · have said : value ≠ .null := by
      have := Option.filter_eq_some_iff.1 gives
      simpa using this.2
    rw [Option.some_or, same, entry, gives]
    simp [Option.filter, said]

lemma active_refreshed (now : Value) (active : isActive existing = true)
    (state : ∀ state, given alert "state" = some state → state = .str "firing" ∨ state = .str "acknowledged") :
    isActive (refreshed now alert existing) = true := by
  have is : (refreshed now alert existing).get? "state" = (given alert "state").or (existing.get? "state") := by
    rw [refreshed, Dict.get?_set, if_neg (by decide), Dict.get?_update, Dict.get?_filter]
    rfl
  rw [isActive, is]
  rcases gives : given alert "state" with _ | value
  · exact active
  · rcases state value gives with rfl | rfl <;> simp

lemma id_refreshed (id : ∀ id, given alert "id" = some id → existing.get? "id" = some id) :
    (refreshed now alert existing).get? "id" = existing.get? "id" := by
  have is : (refreshed now alert existing).get? "id" = (given alert "id").or (existing.get? "id") := by
    rw [refreshed, Dict.get?_set, if_neg (by decide), Dict.get?_update, Dict.get?_filter]
    rfl
  rw [is]
  rcases gives : given alert "id" with _ | value
  · rfl
  · rw [id value gives, Option.some_or]

/-! ## The invariant -/

/-- What holds between any two calls. -/
structure Sound (env : Env) (w : World) : Prop where
  one : ∀ a ∈ w.alerts, ∀ b ∈ w.alerts, isActive a.fields → isActive b.fields → identity a.fields = identity b.fields → a = b
  entities : (w.alerts.map Alert.entity).Nodup
  fresh : ∀ a ∈ w.alerts, a.entity < w.entities
  keyed : ∀ a ∈ w.alerts, alertKey env a.fields ≠ ""
  numbered : ∀ a ∈ w.alerts, ∃ n ≤ w.seq, a.fields.get? "id" = some (.str (toString n))
  apart : ∀ a ∈ w.alerts, ∀ b ∈ w.alerts, a.fields.get? "id" = b.fields.get? "id" → a.entity = b.entity
  noted : ∀ entity id, (entity, id) ∈ w.ids → entity < w.entities ∧ ∃ n ≤ w.seq, id = some (.str (toString n))
  own : ∀ a ∈ w.alerts, ∀ entity, (entity, a.fields.get? "id") ∈ w.ids → entity = a.entity
  once : ∀ entity entity' id, (entity, id) ∈ w.ids → (entity', id) ∈ w.ids → entity = entity'

lemma Sound.holds (sound : Sound env w) : Holds w := ⟨sound.one, sound.once⟩

variable {a b : Alert}

lemma Sound.eq_of_entity (sound : Sound env w) (left : a ∈ w.alerts) (right : b ∈ w.alerts)
    (same : a.entity = b.entity) : a = b := List.inj_on_of_nodup_map sound.entities left right same

lemma toString_injective {n m : ℕ} (same : toString n = toString m) : n = m := by
  have digits : Nat.toDigits 10 n = Nat.toDigits 10 m := by
    rw [← Nat.toList_repr, ← Nat.toList_repr]
    exact congrArg String.toList same
  rw [← Nat.ofDigitChars_ten_toDigits (n := n), digits, Nat.ofDigitChars_ten_toDigits]

lemma Sound.save (sound : Sound env w) : Sound env w.save := by
  refine { sound with
    noted := fun entity id within => ?_
    own := fun a there entity within => ?_
    once := fun entity entity' id within within' => ?_ }
  · rcases List.mem_append.1 within with before | now
    · exact sound.noted entity id before
    · obtain ⟨a, there, is⟩ := List.mem_map.1 now
      cases is
      exact ⟨sound.fresh a there, sound.numbered a there⟩
  · rcases List.mem_append.1 within with before | now
    · exact sound.own a there entity before
    · obtain ⟨b, there', is⟩ := List.mem_map.1 now
      obtain ⟨rfl, same⟩ := Prod.mk.inj is
      exact sound.apart b there' a there same
  · rcases List.mem_append.1 within with before | now <;> rcases List.mem_append.1 within' with before' | now'
    · exact sound.once entity entity' id before before'
    · obtain ⟨a, there, is⟩ := List.mem_map.1 now'
      cases is
      exact sound.own a there entity before
    · obtain ⟨a, there, is⟩ := List.mem_map.1 now
      cases is
      exact (sound.own a there entity' before').symm
    · obtain ⟨a, there, is⟩ := List.mem_map.1 now
      obtain ⟨b, there', is'⟩ := List.mem_map.1 now'
      cases is
      obtain ⟨rfl, same⟩ := Prod.mk.inj is'
      exact sound.apart a there b there' same.symm

variable {alerts alerts' : List Alert}

lemma Sound.fewer (sound : Sound env w) (sub : alerts ⊆ w.alerts)
    (nodup : (alerts.map Alert.entity).Nodup) : Sound env { w with alerts := alerts } where
  one a left b right := sound.one a (sub left) b (sub right)
  entities := nodup
  fresh a there := sound.fresh a (sub there)
  keyed a there := sound.keyed a (sub there)
  numbered a there := sound.numbered a (sub there)
  apart a left b right := sound.apart a (sub left) b (sub right)
  noted := sound.noted
  own a there := sound.own a (sub there)
  once := sound.once

/-- An alert is changed, but not in what it is about. -/
structure Revised (a b : Alert) : Prop where
  entity : b.entity = a.entity
  same : identity b.fields = identity a.fields
  id : b.fields.get? "id" = a.fields.get? "id"
  active : isActive b.fields → isActive a.fields

lemma Revised.refl (a : Alert) : Revised a a := ⟨rfl, rfl, rfl, fun active => active⟩

variable {R : Alert → Alert → Prop}

lemma exists_of_mem_right (all : List.Forall₂ R alerts alerts')
    (within : b ∈ alerts') : ∃ a ∈ alerts, R a b := by
  induction all with
  | nil => cases within
  | cons first _ ih =>
    rcases List.mem_cons.1 within with rfl | within
    · exact ⟨_, List.mem_cons_self, first⟩
    · obtain ⟨a, there, holds⟩ := ih within
      exact ⟨a, List.mem_cons_of_mem _ there, holds⟩

lemma exists_of_mem_left (all : List.Forall₂ R alerts alerts')
    (within : a ∈ alerts) : ∃ b ∈ alerts', R a b := by
  induction all with
  | nil => cases within
  | cons first _ ih =>
    rcases List.mem_cons.1 within with rfl | within
    · exact ⟨_, List.mem_cons_self, first⟩
    · obtain ⟨b, there, holds⟩ := ih within
      exact ⟨b, List.mem_cons_of_mem _ there, holds⟩

lemma entities_revised (all : List.Forall₂ Revised alerts alerts') :
    alerts'.map Alert.entity = alerts.map Alert.entity := by
  induction all with
  | nil => rfl
  | cons first _ ih => rw [List.map_cons, List.map_cons, first.entity, ih]

lemma Sound.revise (sound : Sound env w) (all : List.Forall₂ Revised w.alerts alerts) :
    Sound env { w with alerts := alerts } := by
  have entities : (alerts.map Alert.entity).Nodup := entities_revised all ▸ sound.entities
  refine ⟨fun a' left b' right active active' same => ?_, entities, fun b there => ?_, fun b there => ?_, fun b there => ?_,
    fun a' left b' right same => ?_, sound.noted, fun b there entity within => ?_, sound.once⟩
  · obtain ⟨a, left', first⟩ := exists_of_mem_right all left
    obtain ⟨b, right', second⟩ := exists_of_mem_right all right
    have is := sound.one a left' b right' (first.active active) (second.active active')
      (by rw [← first.same, ← second.same, same])
    refine List.inj_on_of_nodup_map entities left right ?_
    rw [first.entity, second.entity, is]
  · obtain ⟨a, there', revised⟩ := exists_of_mem_right all there
    rw [revised.entity]
    exact sound.fresh a there'
  · obtain ⟨a, there', revised⟩ := exists_of_mem_right all there
    rw [alertKey_congr revised.same]
    exact sound.keyed a there'
  · obtain ⟨a, there', revised⟩ := exists_of_mem_right all there
    rw [revised.id]
    exact sound.numbered a there'
  · obtain ⟨a, left', first⟩ := exists_of_mem_right all left
    obtain ⟨b, right', second⟩ := exists_of_mem_right all right
    rw [first.entity, second.entity]
    exact sound.apart a left' b right' (by rw [← first.id, ← second.id, same])
  · obtain ⟨a, there', revised⟩ := exists_of_mem_right all there
    rw [revised.entity]
    exact sound.own a there' entity (revised.id ▸ within)

lemma Sound.add (sound : Sound env w) {fields : Fields} (keyed : alertKey env fields ≠ "")
    (id : fields.get? "id" = some (.str (toString (w.seq + 1))))
    (first : ∀ a ∈ w.alerts, isActive a.fields → identity a.fields ≠ identity fields) :
    Sound env { w with alerts := w.alerts ++ [⟨w.entities, fields⟩], seq := w.seq + 1, entities := w.entities + 1 } := by
  have cases : ∀ a ∈ w.alerts ++ [⟨w.entities, fields⟩], a ∈ w.alerts ∨ a = ⟨w.entities, fields⟩ := by
    intro a within
    rwa [List.mem_append, List.mem_singleton] at within
  -- the number is greater than any before
  have other : ∀ n ≤ w.seq, some (Value.str (toString n)) ≠ fields.get? "id" := by
    intro n le same
    rw [id] at same
    have := toString_injective (Value.str.inj (Option.some.inj same))
    omega
  refine ⟨fun a left b right active active' same => ?_, ?_, fun a there => ?_, fun a there => ?_, fun a there => ?_,
    fun a left b right same => ?_, fun entity id' within => ?_, fun a there entity within => ?_, sound.once⟩
  · rcases cases a left with old | rfl <;> rcases cases b right with old' | rfl
    · exact sound.one a old b old' active active' same
    · exact absurd same (first a old active)
    · exact absurd same.symm (first b old' active')
    · rfl
  · rw [List.map_append, List.map_singleton]
    refine List.Nodup.append sound.entities (List.nodup_singleton _) ?_
    rw [List.disjoint_singleton]
    intro within
    obtain ⟨a, there, same⟩ := List.mem_map.1 within
    exact absurd same (sound.fresh a there).ne
  · rcases cases a there with old | rfl
    · exact Nat.lt_succ_of_lt (sound.fresh a old)
    · exact Nat.lt_succ_self _
  · rcases cases a there with old | rfl
    · exact sound.keyed a old
    · exact keyed
  · rcases cases a there with old | rfl
    · obtain ⟨n, le, is⟩ := sound.numbered a old
      exact ⟨n, Nat.le_succ_of_le le, is⟩
    · exact ⟨_, le_rfl, id⟩
  · rcases cases a left with old | rfl <;> rcases cases b right with old' | rfl
    · exact sound.apart a old b old' same
    · obtain ⟨n, le, is⟩ := sound.numbered a old
      exact absurd (is.symm.trans same) (other n le)
    · obtain ⟨n, le, is⟩ := sound.numbered b old'
      exact absurd (is.symm.trans same.symm) (other n le)
    · rfl
  · obtain ⟨less, n, le, is⟩ := sound.noted entity id' within
    exact ⟨Nat.lt_succ_of_lt less, n, Nat.le_succ_of_le le, is⟩
  · rcases cases a there with old | rfl
    · exact sound.own a old entity within
    · obtain ⟨-, n, le, is⟩ := sound.noted entity _ within
      exact absurd is.symm (other n le)

/-! ## What is pruned -/

lemma not_resolved_of_active (active : isActive alert = true) : isResolved alert = false := by
  rw [isActive, decide_eq_true_eq] at active
  rw [isResolved, decide_eq_false_iff_not]
  rcases active with is | is <;> rw [is] <;> decide

lemma prune_perm (env : Env) (clock : Clock) (alerts : List Alert) : ∃ others, (prune env clock alerts ++ others).Perm alerts ∧
    ∀ a ∈ others, isResolved a.fields = true := by
  obtain ⟨kept, is⟩ : ∃ kept, kept = alerts.filter fun a => ¬ isResolved a.fields ∨ retained env clock a.fields := ⟨_, rfl⟩
  obtain ⟨gone, is'⟩ : ∃ gone, gone = alerts.filter fun a =>
      ! decide (¬ isResolved a.fields = true ∨ retained env clock a.fields = true) := ⟨_, rfl⟩
  have both : (kept ++ gone).Perm alerts := by
    rw [is, is']
    exact List.filter_append_perm _ _
  have closed : ∀ a ∈ gone, isResolved a.fields = true := by
    intro a within
    rw [is', List.mem_filter] at within
    have := within.2
    simp only [Bool.not_eq_true', decide_eq_false_iff_not, not_or, not_not] at this
    exact this.1
  simp only [prune, ← is]
  split
  · refine ⟨(kept.filter fun a => isResolved a.fields).take ((kept.length : ℤ) - clock.maxActive).toNat ++ gone, ?_, ?_⟩
    · have halves : ((kept.filter fun a => ¬ isResolved a.fields) ++ kept.filter fun a => isResolved a.fields).Perm kept := by
        have := (List.filter_append_perm (fun a : Alert => isResolved a.fields) kept)
        refine (List.perm_append_comm.trans ?_)
        simpa using this
      refine List.Perm.trans ?_ both
      rw [← List.append_assoc]
      refine List.Perm.append_right gone ?_
      refine List.Perm.trans ?_ halves
      rw [List.append_assoc]
      refine List.Perm.append_left _ ?_
      exact List.perm_append_comm.trans (by rw [List.take_append_drop])
    · intro a within
      rcases List.mem_append.1 within with taken | there
      · exact (List.mem_filter.1 (List.mem_of_mem_take taken)).2
      · exact closed a there
  · exact ⟨gone, both, closed⟩

variable {clock : Clock}

lemma prune_subset : prune env clock alerts ⊆ alerts := by
  obtain ⟨others, perm, -⟩ := prune_perm env clock alerts
  exact fun a within => perm.subset (List.mem_append_left _ within)

lemma mem_prune (within : a ∈ alerts) (active : isActive a.fields = true) :
    a ∈ prune env clock alerts := by
  obtain ⟨others, perm, closed⟩ := prune_perm env clock alerts
  rcases List.mem_append.1 (perm.symm.subset within) with there | gone
  · exact there
  · have resolved := closed a gone
    rw [not_resolved_of_active active] at resolved
    cases resolved

lemma Sound.prune (sound : Sound env w) (clock : Clock) : Sound env { w with alerts := prune env clock w.alerts } := by
  refine sound.fewer prune_subset ?_
  obtain ⟨others, perm, -⟩ := prune_perm env clock w.alerts
  have nodup := ((perm.map Alert.entity).nodup_iff).2 sound.entities
  exact nodup.sublist ((List.sublist_append_left _ _).map _)

/-! ## Calls -/

lemma changeFirst_cases (p : Alert → Bool) (f : Alert → Alert) (alerts : List Alert) :
    (∃ a alerts', changeFirst p f alerts = some (f a, alerts') ∧ alerts.find? p = some a ∧ a ∈ alerts ∧ p a = true ∧
      f a ∈ alerts' ∧ List.Forall₂ (fun b b' => b' = b ∨ b = a ∧ b' = f a) alerts alerts') ∨
    changeFirst p f alerts = none ∧ ∀ a ∈ alerts, p a = false := by
  induction alerts with
  | nil => exact .inr ⟨rfl, List.forall_mem_nil _⟩
  | cons first alerts ih =>
    rw [changeFirst]
    by_cases is : p first = true
    · rw [if_pos is]
      refine .inl ⟨first, f first :: alerts, rfl, List.find?_cons_of_pos is, List.mem_cons_self, is, List.mem_cons_self,
        .cons (.inr ⟨rfl, rfl⟩) ?_⟩
      exact List.forall₂_same.2 fun b _ => .inl rfl
    · rw [if_neg is]
      rcases ih with ⟨a, alerts', changes, found, within, holds, within', all⟩ | ⟨none, all⟩
      · refine .inl ⟨a, first :: alerts', by rw [changes]; rfl, ?_, List.mem_cons_of_mem _ within, holds,
          List.mem_cons_of_mem _ within', .cons (.inl rfl) all⟩
        rw [List.find?_cons_of_neg is, found]
      · exact .inr ⟨by rw [none]; rfl, List.forall_mem_cons.2 ⟨Bool.eq_false_iff.2 is, all⟩⟩

lemma keeps_of_revised (sound : Sound env w) (sub : alerts ⊆ w.alerts)
    (stay : ∀ a ∈ w.alerts, isActive a.fields → a ∈ alerts) (all : List.Forall₂ R alerts w'.alerts)
    {resolves : Fields → Prop}
    (changes : ∀ a b, R a b → Revised a b ∧ (isActive a.fields → isActive b.fields ∨ resolves a.fields)) :
    Keeps w w' resolves where
  same a left b right entity := by
    obtain ⟨a', there, changed⟩ := exists_of_mem_right all right
    have revised := (changes a' b changed).1
    have is := sound.eq_of_entity left (sub there) (entity.trans revised.entity)
    rw [is, revised.same]
  stays a within is := by
    obtain ⟨b, there, changed⟩ := exists_of_mem_left all (stay a within is)
    exact ⟨b, there, (changes a b changed).1.entity, (changes a b changed).2 is⟩

lemma Keeps.refl (sound : Sound env w) (resolves : Fields → Prop) : Keeps w w resolves where
  same a left b right entity := by rw [sound.eq_of_entity left right entity]
  stays a within active := ⟨a, within, rfl, .inl active⟩

lemma get?_takeOver {other : String} : (takeOver alert record field).get? other =
    if field = other then (given alert field).or (record.get? other) else record.get? other := by
  rw [takeOver]
  rcases given alert field with _ | value
  · simp
  · rw [Dict.get?_set]
    split <;> rfl

lemma get?_foldl_takeOver {fields : List String} :
    (fields.foldl (takeOver alert) record).get? field =
      if field ∈ fields then (given alert field).or (record.get? field) else record.get? field := by
  induction fields generalizing record with
  | nil => rfl
  | cons first fields ih =>
    rw [List.foldl_cons, ih, get?_takeOver]
    by_cases is : first = field
    · subst is
      simp only [if_true, List.mem_cons, true_or]
      split
      · rcases given alert first with _ | value <;> rfl
      · rfl
    · simp only [is, if_false, List.mem_cons, Ne.symm is, false_or]

lemma get?_newRecord {seq : ℕ} (other : field ∉ TAKEN) :
    (newRecord seq now alert).get? field =
      if field = "updated_at" then some now else if field = "created_at" then some now
      else if field = "state" then some (.str "firing")
      else if field = "message" then some ((alert.get? "message").getD .null)
      else if field = "type" then some ((alert.get? "type").getD (.str "UNKNOWN"))
      else if field = "severity" then some ((alert.get? "severity").getD (.str "warning"))
      else if field = "id" then some (.str (toString seq)) else none := by
  rw [newRecord, get?_foldl_takeOver, if_neg other]
  simp only [Dict.get?_set, Dict.get?_empty, eq_comm]

lemma get?_newRecord_taken {seq : ℕ} (within : field ∈ TAKEN)
    (named : field ≠ "severity") : (newRecord seq now alert).get? field = given alert field := by
  rw [newRecord, get?_foldl_takeOver, if_pos within]
  rcases given alert field with _ | value
  · rw [Option.none_or]
    simp only [TAKEN, List.mem_cons, List.not_mem_nil, or_false] at within
    rcases within with rfl | rfl | rfl | rfl | rfl | rfl | rfl | rfl
    all_goals first | exact absurd rfl named | simp
  · rw [Option.some_or]

lemma identity_newRecord {seq : ℕ} (type : (alert.get? "type").isSome = true) :
    identity (newRecord seq now alert) = identity alert := by
  refine List.map_congr_left fun field within => ?_
  have gives : given (newRecord seq now alert) field = given alert field := by
    simp only [FIELDS, List.mem_cons, List.not_mem_nil, or_false] at within
    rcases within with rfl | rfl | rfl | rfl | rfl
    · obtain ⟨value, is⟩ := Option.isSome_iff_exists.1 type
      rw [given, given, get?_newRecord (by decide), is]
      rfl
    all_goals
      rw [given, get?_newRecord_taken (by decide) (by decide), given, Option.filter_filter]
      simp
  rw [entry, entry, gives]

lemma active_iff {key : String} : active env key a = true ↔ alertKey env a.fields = key ∧ isActive a.fields := by
  rw [active, decide_eq_true_eq]

lemma record_right (sound : Sound env w) (meets : (Call.record clock alert).Meets env w) :
    Sound env (Alerts.record env clock alert w).2 ∧
    (Call.record clock alert).Right env w (Alerts.record env clock alert w).2 := by
  obtain ⟨type, keyed, tells, refreshes⟩ := meets
  have pruned := sound.prune clock
  rw [Call.Right, Alerts.record]
  simp only [if_neg keyed]
  rcases changeFirst_cases (active env (alertKey env alert))
    (fun a => { a with fields := refreshed (.str (env.isoformat clock.now)) alert a.fields }) (prune env clock w.alerts) with
    ⟨a, alerts', changes, -, within, is, within', all⟩ | ⟨none', none⟩
  · -- an active alert with the key is about the same
    obtain ⟨key, isActive⟩ := active_iff.1 is
    have there := prune_subset within
    have same := tells a there isActive key
    obtain ⟨id, state⟩ := refreshes a there isActive key
    have active' := active_refreshed (.str (env.isoformat clock.now)) isActive state
    have changed : ∀ b b', (b' = b ∨ b = a ∧ b' = { a with fields := refreshed (.str (env.isoformat clock.now)) alert a.fields }) →
        Revised b b' ∧ (Alerts.isActive b.fields → Alerts.isActive b'.fields ∨ False) := by
      rintro b b' (rfl | ⟨rfl, rfl⟩)
      · exact ⟨Revised.refl _, .inl⟩
      · exact ⟨⟨rfl, identity_refreshed same, id_refreshed id, fun _ => isActive⟩, fun _ => .inl active'⟩
    rw [changes]
    refine ⟨(pruned.revise (all.imp fun b b' is => (changed b b' is).1)).save, within', active',
      (identity_refreshed same).trans same, fun b there' isActive' same' => ?_,
      keeps_of_revised sound prune_subset (fun b => mem_prune) all changed⟩
    rw [sound.one b there' a there isActive' isActive (same'.trans same.symm)]
  · -- there is none about the same
    have identical : identity (newRecord (w.seq + 1) (.str (env.isoformat clock.now)) alert) = identity alert :=
      identity_newRecord type
    have first : ∀ a ∈ w.alerts, isActive a.fields → identity a.fields ≠ identity alert := by
      intro a within isActive same
      have absent := none a (mem_prune within isActive)
      rw [active_iff.2 ⟨alertKey_congr same, isActive⟩] at absent
      cases absent
    have isActive' : isActive (newRecord (w.seq + 1) (.str (env.isoformat clock.now)) alert) = true := by
      rw [isActive, get?_newRecord (by decide)]
      simp
    have numbered : (newRecord (w.seq + 1) (.str (env.isoformat clock.now)) alert).get? "id" =
        some (.str (toString (w.seq + 1))) := by
      rw [get?_newRecord (by decide)]
      simp
    rw [none']
    refine ⟨(pruned.add ?_ numbered ?_).save, List.mem_append_right _ (List.mem_singleton.2 rfl), isActive', identical,
      fun a there isActive same => absurd same (first a there isActive), ⟨fun a left b right entity => ?_, fun a within is => ?_⟩⟩
    · rwa [alertKey_congr identical]
    · exact fun a within isActive => identical ▸ first a (prune_subset within) isActive
    · rcases List.mem_append.1 right with old | new
      · rw [sound.eq_of_entity left (prune_subset old) entity]
      · rw [List.mem_singleton.1 new] at entity
        exact absurd entity (sound.fresh a left).ne
    · exact ⟨a, List.mem_append_left _ (mem_prune within is), rfl, .inl is⟩

lemma get?_resolved (other : field ∉ ["state", "resolved_at", "resolved_reason", "updated_at"]) :
    (resolved now reason alert).get? field = alert.get? field := by
  simp only [List.mem_cons, List.not_mem_nil, or_false, not_or] at other
  obtain ⟨state, at_, reason_, updated⟩ := other
  rw [resolved, Dict.get?_set, if_neg (Ne.symm updated), Dict.get?_set, if_neg (Ne.symm reason_), Dict.get?_set, if_neg (Ne.symm at_),
    Dict.get?_set, if_neg (Ne.symm state)]

lemma not_active_resolved : isActive (resolved now reason alert) = false := by
  have state : (resolved now reason alert).get? "state" = some (.str "resolved") := by
    simp [resolved]
  rw [isActive, state]
  decide

lemma revised_resolved : Revised a { a with fields := resolved now reason a.fields } where
  entity := rfl
  same := identity_congr fun field within => get?_resolved (by
    simp only [FIELDS, List.mem_cons, List.not_mem_nil, or_false] at within
    rcases within with rfl | rfl | rfl | rfl | rfl <;> decide)
  id := get?_resolved (by decide)
  active is := by
    rw [not_active_resolved] at is
    cases is

lemma resolve_right (sound : Sound env w) {pattern : Fields}
    (meets : (Call.resolve clock pattern reason).Meets env w) :
    Sound env (Alerts.resolve env clock pattern reason w).2 ∧
    (Call.resolve clock pattern reason).Right env w (Alerts.resolve env clock pattern reason w).2 := by
  have tells : Tells env w pattern := meets
  -- the alerts with the key are those about the same
  have about : ∀ a ∈ w.alerts, active env (alertKey env pattern) a = true ↔
      isActive a.fields ∧ identity a.fields = identity pattern := by
    intro a within
    rw [active_iff]
    exact ⟨fun is => ⟨is.2, tells a within is.2 is.1⟩, fun is => ⟨alertKey_congr is.2, is.1⟩⟩
  have untouched : (∀ a ∈ w.alerts, active env (alertKey env pattern) a ≠ true) →
      (∀ entity, entity ∈ ([] : List Alert).map Alert.entity ↔
        ∃ a ∈ w.alerts, a.entity = entity ∧ isActive a.fields ∧ identity a.fields = identity pattern) ∧
      Keeps w w fun fields => identity fields = identity pattern := by
    refine fun none => ⟨fun entity => ⟨fun within => (by cases within), ?_⟩, Keeps.refl sound _⟩
    rintro ⟨a, within, -, is⟩
    exact absurd ((about a within).2 is) (none a within)
  rw [Call.Right, Alerts.resolve]
  dsimp only
  split
  · rename_i empty
    refine ⟨sound, untouched fun a within is => ?_⟩
    exact sound.keyed a within ((active_iff.1 is).1.trans empty)
  split
  · rename_i none
    refine ⟨sound, untouched fun a within is => ?_⟩
    have there := List.mem_map_of_mem (f := fun a => { a with fields := resolved (.str (env.isoformat clock.now)) reason a.fields })
      (List.mem_filter.2 ⟨within, is⟩)
    rw [none] at there
    cases there
  · have all : List.Forall₂ (fun a b => b = if active env (alertKey env pattern) a then
        { a with fields := resolved (.str (env.isoformat clock.now)) reason a.fields } else a) w.alerts
        (w.alerts.map fun a => if active env (alertKey env pattern) a then
          { a with fields := resolved (.str (env.isoformat clock.now)) reason a.fields } else a) :=
      List.forall₂_map_right_iff.2 (List.forall₂_same.2 fun _ _ => rfl)
    have changes : ∀ a b, (b = if active env (alertKey env pattern) a then
        { a with fields := resolved (.str (env.isoformat clock.now)) reason a.fields } else a) → Revised a b := by
      rintro a b rfl
      split
      · exact revised_resolved
      · exact Revised.refl a
    refine ⟨(sound.revise (all.imp changes)).save, fun entity => ?_, ⟨fun a left b right same => ?_, fun a within is => ?_⟩⟩
    · simp only [List.mem_map, List.mem_filter]
      constructor
      · rintro ⟨_, ⟨a, ⟨within, is⟩, rfl⟩, rfl⟩
        exact ⟨a, within, rfl, (about a within).1 is⟩
      · rintro ⟨a, within, rfl, is⟩
        exact ⟨_, ⟨a, ⟨within, (about a within).2 is⟩, rfl⟩, rfl⟩
    · obtain ⟨a', there, changed⟩ := exists_of_mem_right all right
      have revised := changes a' b changed
      rw [sound.eq_of_entity left there (same.trans revised.entity), revised.same]
    · refine ⟨_, List.mem_map_of_mem within, ?_⟩
      split
      · rename_i chosen
        exact ⟨rfl, .inr ((about a within).1 chosen).2⟩
      · exact ⟨rfl, .inl is⟩

lemma get?_acknowledged {actor : Value} (other : field ∉ ["state", "acknowledged_by", "acknowledged_at", "updated_at"]) :
    (acknowledged now actor alert).get? field = alert.get? field := by
  simp only [List.mem_cons, List.not_mem_nil, or_false, not_or] at other
  obtain ⟨state, by_, at_, updated⟩ := other
  rw [acknowledged, Dict.get?_set, if_neg (Ne.symm updated), Dict.get?_set, if_neg (Ne.symm at_), Dict.get?_set, if_neg (Ne.symm by_),
    Dict.get?_set, if_neg (Ne.symm state)]

lemma acknowledge_right (sound : Sound env w) (clock : Clock) (id : String) (actor : Value) :
    Sound env (Alerts.acknowledge env clock id actor w).2 ∧
    (Call.acknowledge clock id actor).Right env w (Alerts.acknowledge env clock id actor w).2 := by
  have untouched : Sound env w ∧ Keeps w w fun _ => False := ⟨sound, Keeps.refl sound _⟩
  rw [Call.Right, Alerts.acknowledge]
  split
  · exact untouched
  rename_i target found
  split
  · exact untouched
  split
  swap
  · exact untouched
  rename_i firing
  rcases changeFirst_cases (hasId env id)
    (fun a => { a with fields := acknowledged (.str (env.isoformat clock.now)) actor a.fields }) w.alerts with
    ⟨a, alerts', changes, found', -, -, -, all⟩ | ⟨none, -⟩
  · rw [found] at found'
    cases found'
    have active' : isActive (acknowledged (.str (env.isoformat clock.now)) actor target.fields) = true := by
      rw [isActive, decide_eq_true_eq]
      exact .inr (by simp [acknowledged])
    have isActive : isActive target.fields = true := by
      rw [isActive, decide_eq_true_eq]
      exact .inl firing
    have changed : ∀ b b', (b' = b ∨ b = target ∧
        b' = { target with fields := acknowledged (.str (env.isoformat clock.now)) actor target.fields }) →
        Revised b b' ∧ (Alerts.isActive b.fields → Alerts.isActive b'.fields ∨ False) := by
      rintro b b' (rfl | ⟨rfl, rfl⟩)
      · exact ⟨Revised.refl _, .inl⟩
      · refine ⟨⟨rfl, identity_congr fun field within => get?_acknowledged ?_, get?_acknowledged (by decide), fun _ => isActive⟩,
          fun _ => .inl active'⟩
        simp only [FIELDS, List.mem_cons, List.not_mem_nil, or_false] at within
        rcases within with rfl | rfl | rfl | rfl | rfl <;> decide
    rw [changes]
    exact ⟨(sound.revise (all.imp fun b b' is => (changed b b' is).1)).save,
      keeps_of_revised sound (List.Subset.refl _) (fun b within _ => within) all changed⟩
  · rw [none]
    exact untouched

/-! ## Loading -/

lemma number_toString (n : ℕ) : env.number (toString n) = some (some n) := by
  have digits : (toString n).toList = Nat.toDigits 10 n := Nat.toList_repr
  have all : ((toString n).toList.all Char.isDigit) = true := by
    rw [digits, List.all_eq_true]
    exact fun c within => Nat.isDigit_of_mem_toDigits (by decide) (by decide) within
  have some : toString n ≠ "" := by
    intro empty
    rw [empty] at digits
    exact Nat.toDigits_ne_nil digits.symm
  rw [Env.number, if_pos ⟨some, all⟩, digits, Nat.ofDigitChars_ten_toDigits]

lemma idNumbers_spec (numbered : ∀ a ∈ alerts, ∃ n : ℕ, a.fields.get? "id" = some (.str (toString n))) :
    ∃ numbers, idNumbers env alerts = some numbers ∧
      ∀ n, n ∈ numbers ↔ ∃ a ∈ alerts, a.fields.get? "id" = some (.str (toString n)) := by
  induction alerts with
  | nil => exact ⟨[], rfl, fun n => by simp⟩
  | cons first alerts ih =>
    rw [List.forall_mem_cons] at numbered
    obtain ⟨m, is⟩ := numbered.1
    obtain ⟨numbers, reads, mem⟩ := ih numbered.2
    have head : env.number (((first.fields.get? "id").map env.text).getD "") = some (some m) := by
      rw [is]
      exact number_toString m
    refine ⟨m :: numbers, ?_, fun n => ?_⟩
    · rw [idNumbers] at reads ⊢
      simp [head, reads]
    · rw [List.mem_cons, mem, List.exists_mem_cons_iff, is]
      refine or_congr_left ⟨fun same => by rw [same], fun same => ?_⟩
      exact (toString_injective (Value.str.inj (Option.some.inj same))).symm

lemma load_right (sound : Sound env w) (stored : w.disk = w.alerts) (meets : Call.load.Meets env w) :
    Alerts.load env w = some w := by
  have numbered : ∀ a ∈ w.alerts, ∃ n : ℕ, a.fields.get? "id" = some (.str (toString n)) := fun a within =>
    (sound.numbered a within).imp fun _ is => is.2
  obtain ⟨numbers, reads, mem⟩ : ∃ numbers, idNumbers env w.alerts = some numbers ∧ _ := idNumbers_spec numbered
  have seq : numbers.foldl max 0 = w.seq := by
    refine le_antisymm (foldl_max_le (fun n within => ?_) (Nat.zero_le _)) ?_
    · obtain ⟨a, there, is⟩ := (mem n).1 within
      obtain ⟨m, le, is'⟩ := sound.numbered a there
      rw [is] at is'
      rwa [toString_injective (Value.str.inj (Option.some.inj is'))]
    · rcases meets with none | ⟨a, there, is⟩
      · rw [none]
        exact Nat.zero_le _
      · exact le_foldl_max (.inl ((mem w.seq).2 ⟨a, there, is⟩))
  rw [Alerts.load, stored, reads, Option.map_some, seq]
  obtain ⟨alerts, _, disk, _, _⟩ := w
  have same : disk = alerts := stored
  rw [same]

/-! ## Runs -/

lemma stored_record (clock : Clock) (alert : Fields) :
    (Alerts.record env clock alert w).2.disk = (Alerts.record env clock alert w).2.alerts := by
  rw [Alerts.record]
  dsimp only
  split <;> rfl

lemma stored_resolve (stored : w.disk = w.alerts) (clock : Clock) (pattern : Fields) (reason : Value) :
    (Alerts.resolve env clock pattern reason w).2.disk = (Alerts.resolve env clock pattern reason w).2.alerts := by
  rw [Alerts.resolve]
  dsimp only
  split
  · exact stored
  split
  · exact stored
  · rfl

lemma stored_acknowledge (stored : w.disk = w.alerts) (clock : Clock) (id : String) (actor : Value) :
    (Alerts.acknowledge env clock id actor w).2.disk = (Alerts.acknowledge env clock id actor w).2.alerts := by
  rw [Alerts.acknowledge]
  split
  · exact stored
  split
  · exact stored
  split
  · split
    · rfl
    · exact stored
  · exact stored

lemma Sound.call (sound : Sound env w) (stored : w.disk = w.alerts) {call : Call} (meets : call.Meets env w) :
    ∃ w', call.run env w = some w' ∧ Sound env w' ∧ w'.disk = w'.alerts ∧ call.Right env w w' := by
  cases call with
  | record clock alert =>
    obtain ⟨sound', right⟩ := record_right sound meets
    exact ⟨_, rfl, sound', stored_record clock alert, right⟩
  | resolve clock pattern reason =>
    obtain ⟨sound', right⟩ := resolve_right sound meets
    exact ⟨_, rfl, sound', stored_resolve stored clock pattern reason, right⟩
  | acknowledge clock id actor =>
    obtain ⟨sound', right⟩ := acknowledge_right sound clock id actor
    exact ⟨_, rfl, sound', stored_acknowledge stored clock id actor, right⟩
  | load => exact ⟨w, load_right sound stored meets, sound, stored, rfl⟩

lemma sound_empty : Sound env {} where
  one _ within := by cases within
  entities := List.nodup_nil
  fresh _ within := by cases within
  keyed _ within := by cases within
  numbered _ within := by cases within
  apart _ within := by cases within
  noted _ _ within := by cases within
  own _ within := by cases within
  once _ _ _ within := by cases within

/-- Times are read as they are written. -/
def plain : Env where
  str := id
  isoformat _ := "2026-01-01T00:00:00+00:00"
  fromisoformat _ := some 0
  otherDigits _ := none

def at_ (now : ℚ) : Clock := ⟨now, 30, 500⟩

def alertOf (type source : String) : Fields := ((∅ : Fields).set "type" (.str type)).set "source" (.str source)

def after (calls : List Call) : World := calls.foldl (fun w call => (call.run plain w).getD w) {}

lemma runs_after {calls : List Call} (w : World) (runs : Runs plain (fun _ _ => True) w)
    (all : (calls.foldlM (fun w call => Call.run plain w call) w).isSome = true) :
    Runs plain (fun _ _ => True) (calls.foldl (fun w call => (call.run plain w).getD w) w) := by
  induction calls generalizing w with
  | nil => exact runs
  | cons call calls ih =>
    rw [List.foldlM_cons] at all
    rcases ran : call.run plain w with _ | w'
    · rw [ran] at all
      cases all
    · rw [ran] at all
      rw [List.foldl_cons, ran]
      exact ih w' (runs.step ⟨call, trivial, ran⟩) all

def both : World :=
  after [.record (at_ 0) (alertOf "GPU" "a"), .record (at_ 0) (alertOf "GPU" "b"), .record (at_ 0) (alertOf "GPU" "a")]

def untyped : Fields := (∅ : Fields).set "source" (.str "a")

/-- The second alert is resolved, and pruned when the first is recorded again. -/
def pruned : World := after [.record (at_ 0) (alertOf "GPU" "a"), .record (at_ 0) (alertOf "GPU" "b"),
  .resolve (at_ 0) (alertOf "GPU" "b") .null, .record (at_ 10000000) (alertOf "GPU" "a"), .load,
  .record (at_ 10000000) (alertOf "GPU" "c")]

end Vertep.Alerts
