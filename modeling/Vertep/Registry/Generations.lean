import Mathlib.Data.List.Pairwise
import Vertep.Registry.Steps

/-!
# Credentials that were superseded (`core/node_registry.py`)

Whether a token of a node verifies is decided by a number, its generation. A renewal, a rotation and a revocation move
the number on; an enrolment of a node that is known sets it back to 1, and a token of an earlier life that has not
expired may verify again. Where no enrolment does that, what was superseded stays dead.
-/

namespace Vertep.Registry
open Lib

/-- A token or the secret that was given out verifies. -/
def Verifies (env : Env) (w : World) (issue : Issue) : Prop :=
  verifyNodeToken env w.registry w.now (.jwt issue.jwt) issue.node ∨
    verifyNodeToken env w.registry w.now (.secret issue.secret) issue.node

instance (env : Env) (w : World) (issue : Issue) : Decidable (Verifies env w issue) := by
  unfold Verifies
  infer_instance

def FreshSecret (env : Env) (w : World) (draw : Draw) : Prop :=
  ∀ issue ∈ w.given, env.tokenHash issue.secret ≠ env.tokenHash draw.secret

/-- A node that is known is enrolled again only when no token that it was given is unexpired. -/
def NoReset (env : Env) (w : World) : Call → Prop
  | .enroll token requestedId _ _ _ =>
    (w.registry.usable env w.now token).isSome → (w.registry.nodes.get? (nodeIdOf requestedId)).isSome →
      ∀ issue ∈ w.given, issue.node = nodeIdOf requestedId → issue.jwt.exp ≤ ⌊w.now⌋
  | _ => True

def Disciplined (env : Env) (w : World) (call : Call) (draw : Draw) : Prop := FreshSecret env w draw ∧ NoReset env w call

instance (env : Env) (w : World) (call : Call) (draw : Draw) : Decidable (Disciplined env w call draw) := by
  unfold Disciplined FreshSecret
  cases call <;> unfold NoReset <;> infer_instance

/-- What was given does not verify for a node as it is now, and will not while the generation does not fall. -/
structure Dead (env : Env) (now : ℚ) (node : Node) (issue : Issue) : Prop where
  jwt : ⌊now⌋ < issue.jwt.exp → issue.jwt.generation < node.credentialGeneration
  secret : node.status = .revoked ∨ node.secretHash = "" ∨ node.secretHash ≠ env.tokenHash issue.secret

/-- The invariant. -/
structure Sound (env : Env) (w : World) : Prop where
  known : ∀ issue ∈ w.given, ∃ node, w.registry.nodes.get? issue.node = some node ∧
    (⌊w.now⌋ < issue.jwt.exp → issue.jwt.generation ≤ node.credentialGeneration) ∧
    (issue.superseded = true → Dead env w.now node issue)
  alone : w.given.Pairwise fun newer older => newer.node = older.node → older.superseded = true

variable {env : Env} {w : World}

lemma Sound.replaced (sound : Sound env w) {draw : Draw} {nodeId : String} {node : Node}
    {hands : List Issue} (handed : hands = [] ∨ hands = [fresh env draw w.now nodeId node])
    (dead : ∀ issue ∈ w.given, issue.node = nodeId → Dead env w.now node issue) {tokens : Dict String TokenRecord}
    {serials : List (Option String)} {created : List String} {enrolments : List Enrolment} :
    Sound env ⟨⟨tokens, w.registry.nodes.set nodeId node, serials⟩, w.now, hands ++ supersede nodeId w.given, created,
      enrolments⟩ := by
  have older : ∀ issue ∈ supersede nodeId w.given, ∃ node', (w.registry.nodes.set nodeId node).get? issue.node = some node' ∧
      (⌊w.now⌋ < issue.jwt.exp → issue.jwt.generation ≤ node'.credentialGeneration) ∧
      (issue.superseded = true → Dead env w.now node' issue) := by
    intro issue mem
    obtain ⟨before, there, same, ⟨here, _⟩ | ⟨elsewhere, rfl⟩⟩ := mem_supersede mem
    · have dies := dead before there (by rw [same] at here; exact here)
      refine ⟨node, by rw [Dict.get?_set, if_pos here.symm], ?_, fun _ => ?_⟩
      · rw [same]
        exact fun unexpired => (dies.jwt unexpired).le
      · rw [same]
        exact ⟨dies.jwt, dies.secret⟩
    · obtain ⟨node', found, least, dies⟩ := sound.known issue there
      exact ⟨node', by rw [Dict.get?_set, if_neg (Ne.symm elsewhere), found], least, dies⟩
  have apart : (supersede nodeId w.given).Pairwise fun newer older => newer.node = older.node → older.superseded = true := by
    refine List.pairwise_map.2 (sound.alone.imp fun {newer older} superseded same => ?_)
    by_cases here : older.node = nodeId
    · rw [if_pos here]
    · have there : newer.node ≠ nodeId := by
        intro there
        rw [if_pos there, if_neg here] at same
        exact here (same.symm.trans there)
      rw [if_neg here] at same ⊢
      rw [if_neg there] at same
      exact superseded same
  obtain rfl | rfl := handed
  · exact ⟨older, apart⟩
  · refine ⟨fun issue mem => ?_, List.pairwise_cons.2 ⟨fun issue mem same => ?_, apart⟩⟩
    · obtain rfl | mem := List.mem_cons.1 mem
      · exact ⟨node, by rw [Dict.get?_set, fresh, if_pos rfl], fun _ => le_refl _, by rintro ⟨⟩⟩
      · exact older issue mem
    · obtain ⟨_, _, _, ⟨_, superseded⟩ | ⟨elsewhere, _⟩⟩ := mem_supersede mem
      · exact superseded
      · exact absurd same.symm elsewhere

lemma Sound.moves (sound : Sound env w) {nodeId : String} {node changed : Node}
    (found : w.registry.nodes.get? nodeId = some node)
    (next : changed.credentialGeneration = node.credentialGeneration + 1)
    (secret : ∀ issue ∈ w.given,
      changed.status = .revoked ∨ changed.secretHash = "" ∨ changed.secretHash ≠ env.tokenHash issue.secret) :
    ∀ issue ∈ w.given, issue.node = nodeId → Dead env w.now changed issue := by
  rintro issue mem rfl
  obtain ⟨node', found', least, _⟩ := sound.known issue mem
  cases found.symm.trans found'
  exact ⟨fun unexpired => next ▸ Int.lt_add_one_of_le (least unexpired), secret issue mem⟩

lemma Sound.call (sound : Sound env w) {call : Call} {draw : Draw}
    (disciplined : Disciplined env w call draw) : Sound env (w.call env call draw) := by
  have ⟨unused, noReset⟩ := disciplined
  refine World.call_cases env w call draw sound fun result registry effect done => ?_
  cases effect with
  | unchanged early => exact absurd done early
  | created => exact ⟨sound.known, sound.alone⟩
  | @enrolled token requestedId _ _ _ _ record _ node usable writes hands =>
    refine sound.replaced hands.handed fun issue mem here => ?_
    have fresh : node.secretHash ≠ env.tokenHash issue.secret := by
      rw [writes]
      exact (unused issue mem).symm
    refine ⟨fun unexpired => ?_, .inr (.inr fresh)⟩
    obtain ⟨known, found, _⟩ := sound.known issue mem
    rw [here] at found
    have expired := noReset (by rw [usable]; rfl) (by rw [found]; rfl) issue mem here
    exact absurd unexpired (not_lt.2 expired)
  | reissued _ _ found _ _ hands =>
    exact sound.replaced hands.handed (sound.moves found rfl fun issue mem => .inr (.inr (unused issue mem).symm))
  | renewed found _ hands =>
    exact sound.replaced hands.handed (sound.moves found rfl fun issue mem => .inr (.inr (unused issue mem).symm))
  | @rotated nodeId _ node found _ shows =>
    have none : handed result = [] ∨ handed result = [fresh env draw w.now nodeId node.rotated] :=
      .inl (handed_of_shows shows)
    exact sound.replaced none (sound.moves found rfl fun _ _ => .inr (.inl rfl))
  | @revoked nodeId _ node found shows =>
    have none : handed result = [] ∨ handed result = [fresh env draw w.now nodeId node.revoked] :=
      .inl (handed_of_shows shows)
    exact sound.replaced none (sound.moves found rfl fun _ _ => .inl rfl)

lemma Sound.tick (sound : Sound env w) {time : ℚ} (later : w.now ≤ time) :
    Sound env { w with now := time } := by
  refine ⟨fun issue mem => ?_, sound.alone⟩
  obtain ⟨node, found, least, dead⟩ := sound.known issue mem
  have before : ⌊w.now⌋ ≤ ⌊time⌋ := Int.floor_mono later
  refine ⟨node, found, fun unexpired => least (before.trans_lt unexpired), fun superseded => ?_⟩
  obtain ⟨jwt, secret⟩ := dead superseded
  exact ⟨fun unexpired => jwt (before.trans_lt unexpired), secret⟩

lemma Step.sound {w' : World} (step : Step env (Disciplined env) w w') (sound : Sound env w) :
    Sound env w' := by
  cases step with
  | call call draw disciplined => exact sound.call disciplined
  | tick time later => exact sound.tick later

lemma Init.sound (init : Init w) : Sound env w := by
  obtain ⟨registry, now, given, created, enrolments⟩ := w
  obtain ⟨rfl, rfl, rfl, rfl⟩ := init
  exact ⟨List.forall_mem_nil _, .nil⟩

lemma Dead.not_verifies {issue : Issue} {node : Node}
    (found : w.registry.nodes.get? issue.node = some node) (dead : Dead env w.now node issue) : ¬ Verifies env w issue := by
  rintro (⟨_, _, _, _, _, unexpired, node', found', _, same⟩ | ⟨node', found', active, there, same⟩)
  · cases found.symm.trans found'
    exact (dead.jwt unexpired).ne same
  · cases found.symm.trans found'
    obtain revoked | empty | other := dead.secret
    · exact active revoked
    · exact there empty
    · exact other same

/-- Of two that were given to one node at most one is not superseded. -/
def Exclusive (a b : Issue) : Prop := a.node = b.node → a.superseded = false → b.superseded = false → a = b

instance : Std.Symm Exclusive :=
  ⟨fun _ _ exclusive same live live' => (exclusive same.symm live' live).symm⟩

lemma Sound.exclusive (sound : Sound env w) {a b : Issue} (ha : a ∈ w.given) (hb : b ∈ w.given) :
    Exclusive a b := by
  have pairs : w.given.Pairwise Exclusive :=
    sound.alone.imp fun superseded same _ live => absurd (superseded same) (by rw [live]; exact Bool.false_ne_true)
  exact pairs.forall_of_forall (fun _ _ _ _ _ => rfl) ha hb

/-- What was superseded does not verify, and of what a node was given at most one verifies. -/
def StayDead (env : Env) (w : World) : Prop :=
  (∀ issue ∈ w.given, issue.superseded = true → ¬ Verifies env w issue) ∧
    ∀ a ∈ w.given, ∀ b ∈ w.given, a.node = b.node → Verifies env w a → Verifies env w b → a = b

/-- **Superseded credentials stay dead**, in every run in which no enrolment sets a generation back that an unexpired
token still has. -/
theorem superseded_credentials_stay_dead (env : Env) (w : World)
    (reach : Reach Init (Step env (Disciplined env)) w) : StayDead env w := by
  have sound : Sound env w := reach.invariant (fun _ => Init.sound) fun _ _ sound step => step.sound sound
  have dead : ∀ issue ∈ w.given, issue.superseded = true → ¬ Verifies env w issue := by
    intro issue mem superseded
    obtain ⟨node, found, _, dies⟩ := sound.known issue mem
    exact (dies superseded).not_verifies found
  refine ⟨dead, fun a ha b hb same verifiesA verifiesB => sound.exclusive ha hb same ?_ ?_⟩
  · exact Bool.eq_false_iff.2 fun superseded => dead a ha superseded verifiesA
  · exact Bool.eq_false_iff.2 fun superseded => dead b hb superseded verifiesB

def renewedWorld : World :=
  enrolledWorld.call sampleEnv (.renew "node-1" "BEGIN CERTIFICATE REQUEST") (sampleDraw "22")

lemma renewedWorld_reached : Reach Init (Step sampleEnv (Disciplined sampleEnv)) renewedWorld := by
  refine .step (.step (.step (.init ⟨rfl, rfl, rfl, rfl⟩) (.call _ _ _ ?_)) (.call _ _ _ ?_)) (.call _ _ _ ?_) <;>
    decide +kernel

theorem superseded_credentials_stay_dead_after_renewal : StayDead sampleEnv renewedWorld :=
  superseded_credentials_stay_dead sampleEnv renewedWorld renewedWorld_reached

/-- The node is enrolled again, with a second token. -/
def enrolledAgain : World :=
  (enrolledWorld.call sampleEnv (.create "gpu" 900 false) (sampleDraw "22")).call sampleEnv (enrolSample "22")
    (sampleDraw "22")

def AlwaysStayDead (env : Env) : Prop :=
  ∀ w, Reach Init (Step env fun w _ draw => FreshSecret env w draw) w → StayDead env w

theorem reenrolment_revives_a_token : ¬ AlwaysStayDead sampleEnv := by
  intro always
  have reach : Reach Init (Step sampleEnv fun w _ draw => FreshSecret sampleEnv w draw) enrolledAgain := by
    refine .step (.step (.step (.step (.init ⟨rfl, rfl, rfl, rfl⟩) (.call _ _ _ ?_)) (.call _ _ _ ?_)) (.call _ _ _ ?_))
      (.call _ _ _ ?_) <;> unfold FreshSecret <;> decide +kernel
  obtain ⟨dead, _⟩ := always enrolledAgain reach
  have revived : ∃ issue ∈ enrolledAgain.given, issue.superseded = true ∧ Verifies sampleEnv enrolledAgain issue := by
    decide +kernel
  obtain ⟨issue, mem, superseded, verifies⟩ := revived
  exact dead issue mem superseded verifies

end Vertep.Registry
