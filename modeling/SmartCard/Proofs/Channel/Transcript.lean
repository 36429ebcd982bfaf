import SmartCard.Proofs.Channel.Scp03Card
import SmartCard.Proofs.Channel.SessionCalls

/-!
# What a session remembers

A session keeps little of its past: the links, and the command whose answer it awaits. What these
are is determined by what the caller has seen. A `Transcript` is made from the calls and their
outcomes alone, without a look into the session, and `Session.chained_after` reads the state of the
session off it, after any run of calls (`Session.Chained`).

There are two stages. Until the host's proof is made nothing is remembered, and the session is as it
was started (`Session.Unlinked`). Afterwards the links are those of the transcript
(`Session.Linked`): the MAC of the last command that was returned with one, the MAC of the last
answer that was verified, and the number of commands, refused ones included. The proof is by the
stage the session is in (`Session.Stage`), which one call keeps or moves on from the first to the
second, and never back. -/

namespace SmartCard

/-! ### Transcripts -/

/-- What the calls to a session have shown so far. Lists have the latest entry first. -/
structure Transcript where
  /-- The proofs that the host made, each with the level that it asked for. -/
  proofs : List (SecurityLevel × Command) := []
  /-- The commands that were returned with a MAC. -/
  sealed : List Command := []
  /-- The MACs of verified answers, since the last proof. -/
  verified : List (Block 8) := []
  /-- The number of commands since the last proof, whether or not they could be protected. -/
  wraps : Nat := 0
  /-- The command that no answer has followed yet. -/
  awaited : Option Command := none

namespace Transcript

/-- Whether the last proof asked for a protection. -/
def asks (t : Transcript) (protection : SecurityLevel → Bool) : Bool :=
  t.proofs.head?.any fun proof => protection proof.1

/-- A call and its outcome are added. -/
def note (t : Transcript) : SessionEvent → Transcript
  | .authenticate level (.ok proof) =>
    { proofs := (level, proof) :: t.proofs, sealed := proof :: t.sealed }
  | .authenticate _ (.error _) => t
  | .wrap command outcome =>
    { t with
      sealed := if t.asks (·.cMac) then outcome.toOption.toList ++ t.sealed else t.sealed
      wraps := t.wraps + 1
      awaited := some command }
  | .unwrap answer (.ok _) =>
    { t with
      verified :=
        if t.asks (·.rMac) then ((splitMac answer.payload).map Prod.snd).toList ++ t.verified
        else t.verified
      awaited := none }
  | .unwrap _ (.error _) => { t with awaited := none }

/-- The transcript of a run. -/
def ofEvents (events : List SessionEvent) : Transcript := events.foldl note {}

theorem asks_of_proofs {t : Transcript} {level : SecurityLevel} {proof : Command}
    {proofs : List (SecurityLevel × Command)} (h : t.proofs = (level, proof) :: proofs)
    (protection : SecurityLevel → Bool) : t.asks protection = protection level := by
  unfold asks
  rw [h]
  rfl

end Transcript

namespace Session

variable {s first : Session} {t : Transcript} {level : SecurityLevel} {proof : Command}

/-! ### What no call changes -/

/-- Both sessions belong to the same handshake: nothing but the protection differs. -/
structure Fixed (first s : Session) : Prop where
  version_eq : s.version = first.version
  parameters_eq : s.parameters = first.parameters
  keys_eq : s.keys = first.keys
  keyVersion_eq : s.keyVersion = first.keyVersion
  hostChallenge_eq : s.hostChallenge = first.hostChallenge
  cardChallenge_eq : s.cardChallenge = first.cardChallenge

namespace Fixed

theorem refl (s : Session) : Fixed s s := ⟨rfl, rfl, rfl, rfl, rfl, rfl⟩

theorem trans {r : Session} (h : Fixed first s) (hr : Fixed s r) : Fixed first r where
  version_eq := hr.version_eq.trans h.version_eq
  parameters_eq := hr.parameters_eq.trans h.parameters_eq
  keys_eq := hr.keys_eq.trans h.keys_eq
  keyVersion_eq := hr.keyVersion_eq.trans h.keyVersion_eq
  hostChallenge_eq := hr.hostChallenge_eq.trans h.hostChallenge_eq
  cardChallenge_eq := hr.cardChallenge_eq.trans h.cardChallenge_eq

/-- A session that differs in the protection alone, with links of the same protocol. -/
theorem of_version_eq {chaining : Chaining} (h : chaining.version = s.chaining.version)
    (level : SecurityLevel) (authenticated : Bool) (pending : Option Command) :
    Fixed s { s with chaining, level, authenticated, pending } :=
  ⟨h, rfl, rfl, rfl, rfl, rfl⟩

end Fixed

/-- **No call changes what the handshake has settled.** -/
theorem fixed_call (s : Session) (call : SessionCall) : Fixed s (s.call call).2 := by
  cases call with
  | authenticate level =>
    cases hauth : s.authenticate level with
    | error e =>
      rw [call_of_authenticate_error hauth]
      exact .refl s
    | ok made =>
      obtain ⟨proof, after⟩ := made
      rw [call_of_authenticate hauth]
      obtain ⟨-, -, cryptogram, chaining, -, hmade, rfl⟩ := authenticate_eq_ok_iff.1 hauth
      refine .of_version_eq ?_ _ _ _
      -- the proof is protected like a command, which keeps to the protocol
      rw [Chaining.version_linkAnswers, version_of_protectCommand hmade]
  | wrap command =>
    obtain ⟨chaining, pending, hversion, hafter⟩ := exists_wrap s command
    rw [call_wrap, hafter]
    exact .of_version_eq hversion _ _ _
  | unwrap answer =>
    obtain ⟨chaining, hversion, hafter⟩ := exists_unwrap s answer
    rw [call_unwrap, hafter]
    exact .of_version_eq hversion _ _ _

theorem fixed_after (s : Session) (calls : List SessionCall) : Fixed s (s.after calls) :=
  keeps_after (P := Fixed s) (fun r call h => h.trans (fixed_call r call)) (.refl s) calls

/-- The host's proof is made in the protocol of the offer. -/
theorem version_of_authenticate {staticKeys : KeySet} {offer : CardOffer} {challenge : Block 8}
    {parameters : Option UInt8} (hstart : start staticKeys offer challenge parameters = .ok first)
    (hauth : first.authenticate level = .ok (proof, s)) : s.version = offer.version := by
  have hfixed := fixed_call first (.authenticate level)
  rw [call_of_authenticate hauth] at hfixed
  exact hfixed.version_eq.trans (unlinked_of_start hstart).version_eq

/-! ### The two stages -/

/-- A session after the host's proof, as its transcript tells it. -/
structure Linked (level : SecurityLevel) (proof : Command) (t : Transcript) (s : Session) :
    Prop where
  authenticated_eq : s.authenticated = true
  /-- The level is the one that was asked for. -/
  level_eq : s.level = level
  /-- The command whose answer is awaited, where answers carry a MAC. -/
  pending_eq : s.pending = if level.rMac then t.awaited else none
  /-- The MAC at the end of the last command that was returned with one. -/
  commandMac_eq : ∃ last mac, t.sealed.head? = some last ∧ last.mac? = some mac ∧
    s.chaining.commandMac? = some mac
  /-- The MAC of the last verified answer, and that of the host's proof before there is one. -/
  answerMac_eq : s.chaining.version = .scp02 →
    s.chaining.answerMac? = t.verified.head?.or proof.mac?
  /-- The number of commands, as far as 32 bits tell. -/
  counter_eq : s.chaining.version = .scp03 → s.chaining.counter? = some (UInt32.ofNat t.wraps)

/-- The stage that a session is in, which the transcript tells by its proofs. -/
inductive Stage (version : ScpVersion) (t : Transcript) (s : Session) : Prop
  | before (hproofs : t.proofs = []) (h : Unlinked version s)
  | after (level : SecurityLevel) (proof : Command) (hproofs : t.proofs = [(level, proof)])
    (h : Linked level proof t s)

/-- **The host's proof links the session.** Its MAC is the first one of the commands, and the one
that the MACs of answers go on from. -/
theorem Unlinked.linked {version : ScpVersion} (h : Unlinked version s) {after : Session}
    (hauth : s.authenticate level = .ok (proof, after)) (t : Transcript) :
    Linked level proof (t.note (.authenticate level (.ok proof))) after := by
  obtain ⟨-, -, cryptogram, chaining, -, hmade, rfl⟩ := authenticate_eq_ok_iff.1 hauth
  -- the proof always carries a MAC, whatever level it asks for
  obtain ⟨mac, hmac, hseals⟩ := seals_of_protectCommand rfl hmade
  rw [h.chaining_eq] at hseals
  refine ⟨rfl, rfl, ?_, ⟨proof, mac, rfl, hmac, ?_⟩, ?_, ?_⟩
  · change s.pending = if level.rMac then none else none
    rw [h.pending_eq, ite_self]
  · exact (Chaining.commandMac?_linkAnswers chaining).trans hseals.commandMac_eq
  · intro hversion
    change chaining.linkAnswers.version = .scp02 at hversion
    change chaining.linkAnswers.answerMac? = proof.mac?
    rw [Chaining.version_linkAnswers] at hversion
    -- only SCP02 links answers, and with the proof its chain of answers starts
    obtain ⟨last, hlast⟩ := Chaining.exists_answerMac hversion
    rw [Chaining.answerMac?_linkAnswers hseals.commandMac_eq, hlast, hmac, Option.map_some]
  · intro hversion
    change chaining.linkAnswers.version = .scp03 at hversion
    change chaining.linkAnswers.counter? = some (UInt32.ofNat 0)
    rw [Chaining.version_linkAnswers, hseals.version_eq, Chaining.version_start] at hversion
    -- the count starts with the first command after the proof
    rw [Chaining.counter?_linkAnswers, hseals.counter_eq, hversion]
    rfl

/-! ### Commands and answers after the proof -/

theorem Linked.wrap (h : Linked level proof t s) (hproofs : t.proofs = [(level, proof)])
    (command : Command) :
    Linked level proof (t.note (.wrap command (s.wrap command).1)) (s.wrap command).2 := by
  obtain ⟨last, mac, hlast, hlastMac, hmac⟩ := h.commandMac_eq
  have hasks : t.asks (·.cMac) = s.level.cMac := by
    rw [Transcript.asks_of_proofs hproofs, h.level_eq]
  -- whatever becomes of the command, it counts and is awaited
  have hpending : (s.counted command).pending = if level.rMac then some command else none := by
    rw [← h.level_eq]
    rfl
  have hcounter (hversion : s.chaining.version = .scp03) :
      s.chaining.count.counter? = some (UInt32.ofNat (t.wraps + 1)) := by
    rw [Chaining.counter?_count, h.counter_eq hversion, Option.map_some, UInt32.ofNat_add]
    rfl
  have hcases := s.wrapped command
  generalize s.wrap command = outcome at hcases
  cases hcases with
  | early hauth => exact absurd (hauth.symm.trans h.authenticated_eq) Bool.false_ne_true
  | @sent wrapped chaining _ hmade =>
    cases hlevel : s.level.cMac with
    | true =>
      obtain ⟨mac', hwrapped, hseals⟩ := seals_of_protectCommand hlevel hmade
      change s.chaining.count.Seals mac' chaining at hseals
      have hversion : chaining.version = s.chaining.version :=
        hseals.version_eq.trans s.chaining.version_count
      -- the new MAC is the last one of commands, and answers and counter go on as they were
      refine ⟨h.authenticated_eq, h.level_eq, hpending, ⟨wrapped, mac', ?_, hwrapped,
        hseals.commandMac_eq⟩, fun hv => ?_, fun hv => ?_⟩
      · change (if t.asks (·.cMac) then wrapped :: t.sealed else t.sealed).head? = some wrapped
        rw [hasks, hlevel]
        rfl
      · exact (hseals.answerMac_eq.trans s.chaining.answerMac?_count).trans
          (h.answerMac_eq (hversion ▸ hv))
      · exact hseals.counter_eq.trans (hcounter (hversion ▸ hv))
    | false =>
      -- the command went out without a MAC, so the last one with a MAC is as it was
      rw [protectCommand_of_not_cMac hlevel] at hmade
      cases hmade
      refine ⟨h.authenticated_eq, h.level_eq, hpending, ⟨last, mac, ?_, hlastMac, ?_⟩,
        fun hv => ?_, fun hv => ?_⟩
      · change (if t.asks (·.cMac) then command :: t.sealed else t.sealed).head? = some last
        rw [hasks, hlevel]
        exact hlast
      · exact s.chaining.commandMac?_count.trans hmac
      · exact s.chaining.answerMac?_count.trans
          (h.answerMac_eq (s.chaining.version_count.symm.trans hv))
      · exact hcounter (s.chaining.version_count.symm.trans hv)
  | failed _ _ =>
    -- nothing was returned, so no new MAC is in the transcript
    refine ⟨h.authenticated_eq, h.level_eq, hpending, ⟨last, mac, ?_, hlastMac, ?_⟩,
      fun hv => ?_, fun hv => ?_⟩
    · change (if t.asks (·.cMac) then t.sealed else t.sealed).head? = some last
      rw [ite_self]
      exact hlast
    · exact s.chaining.commandMac?_count.trans hmac
    · exact s.chaining.answerMac?_count.trans
        (h.answerMac_eq (s.chaining.version_count.symm.trans hv))
    · exact hcounter (s.chaining.version_count.symm.trans hv)

/-- An answer that leaves the links alone leaves all but the awaited command as it was. -/
theorem Linked.unwrap_unlinked (h : Linked level proof t s) {t' : Transcript}
    (hsealed : t'.sealed = t.sealed) (hverified : t'.verified = t.verified)
    (hwraps : t'.wraps = t.wraps) (hawaited : t'.awaited = none) :
    Linked level proof t' { s with pending := none } := by
  refine ⟨h.authenticated_eq, h.level_eq, ?_, ?_, ?_, ?_⟩
  · rw [hawaited, ite_self]
  · rw [hsealed]
    exact h.commandMac_eq
  · rw [hverified]
    exact h.answerMac_eq
  · rw [hwraps]
    exact h.counter_eq

theorem Linked.unwrap (h : Linked level proof t s) (hproofs : t.proofs = [(level, proof)])
    (answer : Response) :
    Linked level proof (t.note (.unwrap answer (s.unwrap answer).1)) (s.unwrap answer).2 := by
  have hasks : t.asks (·.rMac) = s.level.rMac := by
    rw [Transcript.asks_of_proofs hproofs, h.level_eq]
  have hcases := s.unwrapped answer
  generalize s.unwrap answer = outcome at hcases
  cases hcases with
  | unchecked hlevel =>
    refine h.unwrap_unlinked rfl ?_ rfl rfl
    change (if t.asks (·.rMac) then _ else t.verified) = t.verified
    rw [hasks, hlevel]
    rfl
  | short _ hlen _ =>
    -- the answer has no room for a MAC, so none was verified
    refine h.unwrap_unlinked rfl ?_ rfl rfl
    change (if t.asks (·.rMac) then ((splitMac answer.payload).map Prod.snd).toList ++ t.verified
      else t.verified) = t.verified
    rw [splitMac_of_lt hlen]
    exact ite_self _
  | missing _ _ _ => exact h.unwrap_unlinked rfl rfl rfl rfl
  | @opened plain chaining hlevel _ hopened =>
    obtain ⟨body, mac, data, hsplit, hmac, -, -⟩ := openAnswer_eq_ok_iff.1 hopened
    have hreplies := replies_of_answerMac hmac
    have hverified : (t.note (.unwrap answer (.ok plain))).verified = mac :: t.verified := by
      change (if t.asks (·.rMac) then ((splitMac answer.payload).map Prod.snd).toList ++ t.verified
        else t.verified) = mac :: t.verified
      rw [hasks, hlevel, hsplit]
      rfl
    refine ⟨h.authenticated_eq, h.level_eq, (ite_self _).symm, ?_, fun hv => ?_, fun hv => ?_⟩
    · obtain ⟨last, lastMac, hlast, hlastMac, hlinked⟩ := h.commandMac_eq
      exact ⟨last, lastMac, hlast, hlastMac, hreplies.commandMac_eq.trans hlinked⟩
    · -- only an answer of SCP02 has replaced a link, and then by its own MAC
      obtain ⟨last, hlast⟩ := Chaining.exists_answerMac (hreplies.version_eq.symm.trans hv)
      rw [hverified]
      change chaining.answerMac? = some mac
      rw [hreplies.answerMac_eq, hlast, Option.map_some]
    · exact hreplies.counter_eq.trans (h.counter_eq (hreplies.version_eq.symm.trans hv))
  | refused _ _ _ => exact h.unwrap_unlinked rfl rfl rfl rfl

/-! ### All calls -/

/-- **A call keeps the stage, or moves it on.** -/
theorem Stage.call {version : ScpVersion} (h : Stage version t s) (call : SessionCall) :
    Stage version (t.note (s.call call).1) (s.call call).2 := by
  cases h with
  | before hproofs h =>
    -- before the proof, only a proof that succeeds changes anything
    cases call with
    | authenticate level =>
      cases hauth : s.authenticate level with
      | error e =>
        rw [call_of_authenticate_error hauth]
        exact .before hproofs h
      | ok made =>
        obtain ⟨proof, after⟩ := made
        rw [call_of_authenticate hauth]
        -- the list of proofs was empty, so it has the one proof now
        refine .after level proof ?_ (h.linked hauth t)
        change (level, proof) :: t.proofs = _
        rw [hproofs]
    | wrap command =>
      rw [call_wrap, h.wrap_eq]
      exact .before hproofs h
    | unwrap answer =>
      rw [call_unwrap, h.unwrap_eq]
      exact .before hproofs h
  | after level proof hproofs h =>
    -- after the proof, no further proof is made, and the other calls keep the links
    cases call with
    | authenticate other =>
      obtain ⟨e, hrefused⟩ := call_authenticate_of_authenticated h.authenticated_eq other
      rw [hrefused]
      exact .after level proof hproofs h
    | wrap command => exact .after level proof hproofs (h.wrap hproofs command)
    | unwrap answer =>
      refine .after level proof ?_ (h.unwrap hproofs answer)
      -- no answer is a proof, whatever becomes of it
      rw [call_unwrap]
      cases (s.unwrap answer).1 with
      | ok plain => exact hproofs
      | error e => exact hproofs

theorem Stage.run {version : ScpVersion} (h : Stage version t s) (calls : List SessionCall) :
    Stage version ((s.events calls).foldl Transcript.note t) (s.after calls) := by
  -- on the calls, for every session and transcript of calls before them
  induction calls generalizing s t with
  | nil => exact h
  | cons call calls ih => exact ih (h.call call)

/-- What holds of a session between two calls, and of the next call. -/
structure Chained (offer : CardOffer) (first : Session) (t : Transcript) (s : Session) :
    Prop where
  /-- What the handshake has settled is as it was at first. -/
  fixed : Fixed first s
  /-- The links are those of the protocol. -/
  version_eq : s.chaining.version = offer.version
  /-- The host's proof is made at most once. -/
  length_proofs_le : t.proofs.length ≤ 1
  /-- A proof that cannot be made leaves no trace. -/
  authenticate_error : ∀ level e after,
    s.call (.authenticate level) = (.authenticate level (.error e), after) → after = s
  /-- Before the proof nothing is linked, and no command is taken. -/
  before : t.proofs = [] → Unlinked offer.version s ∧
    ∀ command, s.wrap command = (.error (.link .noSecureChannel), s)
  /-- After the proof the links are those of the transcript. -/
  after : ∀ level proof, t.proofs = [(level, proof)] → Linked level proof t s

/-- **A session remembers what its transcript tells.** Whatever calls were made to a session that
was started from a card's offer, and whatever came of them, the laws of `Chained` hold of it. -/
theorem chained_after {staticKeys : KeySet} {offer : CardOffer} {challenge : Block 8}
    {parameters : Option UInt8} (h : start staticKeys offer challenge parameters = .ok first)
    (calls : List SessionCall) :
    Chained offer first (Transcript.ofEvents (first.events calls)) (first.after calls) := by
  have hunlinked := unlinked_of_start h
  have hfixed := fixed_after first calls
  have hstage : Stage offer.version (Transcript.ofEvents (first.events calls))
      (first.after calls) := Stage.run (.before rfl hunlinked) calls
  -- from here on nothing is known of session and transcript but the stage
  generalize Transcript.ofEvents (first.events calls) = t at hstage
  generalize first.after calls = s at hfixed hstage
  refine
    { fixed := hfixed, version_eq := ?_, length_proofs_le := ?_, authenticate_error := ?_
      before := ?_, after := ?_ }
  · exact hfixed.version_eq.trans hunlinked.version_eq
  · cases hstage with
    | before hproofs _ => rw [hproofs]; exact Nat.zero_le 1
    | after level proof hproofs _ => rw [hproofs]; exact Nat.le_refl 1
  · intro level e after hcall
    -- a proof that fails returns the session that there was
    cases hauth : s.authenticate level with
    | error e' =>
      rw [call_of_authenticate_error hauth] at hcall
      cases hcall
      rfl
    | ok made =>
      rw [call_of_authenticate hauth] at hcall
      cases hcall
  · intro hnone
    cases hstage with
    | before _ hbefore => exact ⟨hbefore, hbefore.wrap_eq⟩
    | after level proof hproofs _ => rw [hproofs] at hnone; cases hnone
  · intro level proof hsome
    cases hstage with
    | before hproofs _ => rw [hproofs] at hsome; cases hsome
    | after level' proof' hproofs hlinked =>
      rw [hproofs] at hsome
      cases hsome
      exact hlinked

/-- The recorded session: a command that comes too early, the host's proof, a second proof, and two
commands after it. -/
theorem chained_after_recorded : ∃ first proof,
    start Scp03Card.recordedKeys Scp03Card.recordedOffer Scp03Card.recordedChallenge none =
      .ok first ∧ ∃ t, t.proofs = [(.full, proof)] ∧ t.wraps = 2 ∧
        Chained Scp03Card.recordedOffer first t (first.after
          [.wrap (Command.getData 0x9F7F), .authenticate .full, .authenticate .mac,
            .wrap (Command.getData 0x9F7F), .wrap (Command.storeData 0x80 0x00 [0x01, 0x02])]) := by
  obtain ⟨first, proof, host, hstart, hauth⟩ := Scp03Card.recorded_authenticates
  have hunlinked := unlinked_of_start hstart
  obtain ⟨e, hagain⟩ := call_authenticate_of_authenticated
    -- the session after the proof does not depend on what the transcript holds besides it
    (hunlinked.linked hauth {}).authenticated_eq .mac
  refine ⟨first, proof, hstart, _, ?_, ?_, chained_after hstart _⟩
  · simp only [events, call_wrap, hunlinked.wrap_eq, call_of_authenticate hauth, hagain]
    rfl
  · simp only [events, call_wrap, hunlinked.wrap_eq, call_of_authenticate hauth, hagain]
    rfl

end Session

end SmartCard
