import SmartCard.Proofs.Apdu.Codec
import SmartCard.Proofs.Channel.DesCard
import SmartCard.Proofs.Channel.Scp03Card
import SmartCard.Proofs.Channel.SessionCalls

/-!
# The limits of a session

An authenticated session has all it takes to protect commands and to check answers
(`Session.Equipped`): the handshake has used the secrets for commands, and the derivation of session
keys has made the one for answers wherever a protocol has answers to check. No call takes this away.

So nothing but the length of its data can keep a command from being protected, and the limit that
the session states is the exact one, for all three ways to fill blocks. What goes wrong with an
answer is the fault of the answer. `Session.limited_after` collects this for every session and every
run of calls (`Session.Limited`). -/

namespace SmartCard

/-- Errors of the caller's settings and keys, which are not about the command or the answer. -/
def Error.IsInternal : Error → Prop
  | .configuration _ => True
  | .cipher _ => True
  | _ => False

theorem CommandClass.secureMessaging_or (cla : UInt8) :
    (cla ||| secureMessaging) &&& secureMessaging = secureMessaging := by
  apply UInt8.toBitVec_inj.1
  rw [UInt8.toBitVec_and, UInt8.toBitVec_or, BitVec.and_or_distrib_right, BitVec.and_self]
  ext i hi
  rw [BitVec.getElem_or, BitVec.getElem_and]
  -- bit by bit: where the mark has a bit it is set, and elsewhere nothing is left
  cases secureMessaging.toBitVec[i] with
  | false => simp
  | true => simp

namespace Session

variable {s first : Session} {level : SecurityLevel} {command : Command} {answer : Response}

/-! ### What the handshake leaves -/

/-- The session has a secret for a role, and the ciphers of its protocol can use it. -/
def Has (s : Session) (usage : KeyUsage) : Prop :=
  match s.version with
  | .scp03 => s.keys.Serves usage
  | _ => s.Usable usage

theorem Has.usable {usage : KeyUsage} (h : s.Has usage) {p : DesProtocol}
    {commandMac : Option (Block 8)} {answerMac : Block 8}
    (hlinks : s.chaining = p.links commandMac answerMac) : s.Usable usage := by
  unfold Has version at h
  rw [hlinks] at h
  -- the protocols of DES ask for a secret that triple DES can use, which is what is to be shown
  cases p with
  | scp01 => exact h
  | scp02 => exact h

theorem has_of_usable {usage : KeyUsage} {p : DesProtocol} {commandMac : Option (Block 8)}
    {answerMac : Block 8} (hlinks : s.chaining = p.links commandMac answerMac)
    (h : s.Usable usage) : s.Has usage := by
  unfold Has version
  rw [hlinks]
  cases p with
  | scp01 => exact h
  | scp02 => exact h

theorem Has.serves {usage : KeyUsage} (h : s.Has usage) {last : Block 16} {counter : UInt32}
    (hlinks : s.chaining = .scp03 last counter) : s.keys.Serves usage := by
  unfold Has version at h
  rw [hlinks] at h
  exact h

/-- A key of sixteen bytes serves every protocol. -/
theorem has_of_serves {usage : KeyUsage} (h : s.keys.Serves usage) : s.Has usage := by
  unfold Has
  split
  · exact h
  · obtain ⟨secret, hsecret, hlen⟩ := exists_secret h
    -- sixteen bytes are two DES keys
    exact ⟨secret, hsecret, TripleDes.usable_of_length hlen⟩

/-- The level is one that the protocol offers, and there is a secret for all that it takes. -/
structure Equipped (s : Session) : Prop where
  allows : s.Allows s.level
  enc : s.Has .enc
  mac : s.Has .mac
  rmac : s.level.rMac = true → s.Has .rmac

/-- Links that keep to the protocol change nothing about what a session can do. -/
theorem Equipped.relink (h : Equipped s) {chaining : Chaining}
    (hversion : chaining.version = s.chaining.version) (authenticated : Bool)
    (pending : Option Command) : Equipped { s with chaining, authenticated, pending } := by
  -- what a session has depends on the protocol and the keys, which both stay
  have hhas (usage : KeyUsage) :
      Has { s with chaining, authenticated, pending } usage = s.Has usage := by
    unfold Has version
    rw [hversion]
    rfl
  refine ⟨?_, ?_, ?_, fun hlevel => ?_⟩
  · have hallows := h.allows
    unfold Allows version at hallows ⊢
    rw [hversion]
    exact hallows
  · rw [hhas]
    exact h.enc
  · rw [hhas]
    exact h.mac
  · rw [hhas]
    exact h.rmac hlevel

/-- **The host's proof equips the session.** In SCP01 the proofs of the handshake were made with the
secrets that commands are protected with. The other protocols derive all their secrets. -/
theorem equipped_of_authenticate {staticKeys : KeySet} {offer : CardOffer} {challenge : Block 8}
    {parameters : Option UInt8} (hstart : start staticKeys offer challenge parameters = .ok first)
    {proof : Command} {host : Session} (hauth : first.authenticate level = .ok (proof, host)) :
    Equipped host := by
  obtain ⟨-, keys, hkeys, hproof, rfl⟩ := start_eq_ok_iff.1 hstart
  obtain ⟨-, hallows, cryptogram, chaining, -, hmade, rfl⟩ := authenticate_eq_ok_iff.1 hauth
  have hversion : chaining.linkAnswers.version = (Chaining.start offer.version).version := by
    rw [Chaining.version_linkAnswers, version_of_protectCommand hmade]
    rfl
  -- the proof itself was protected at a lower level, so the claim is about the session before it
  suffices hequipped : Equipped { unproved keys offer challenge parameters with level } from
    hequipped.relink hversion true none
  unfold sessionKeys at hkeys
  cases hoffer : offer.version with
  | scp01 =>
    have hlinks : (unproved keys offer challenge parameters).chaining =
        DesProtocol.scp01.links none (Block.zero 8) := by
      change Chaining.start offer.version = _
      rw [hoffer]
      rfl
    have hversion' : (unproved keys offer challenge parameters).version = .scp01 := by
      rw [version, hlinks]
      rfl
    -- the card's cryptogram was checked with the secret for ciphers, and the proof made with that
    -- for MACs
    have henc := DesCard.usable_of_cardCryptogram (p := .scp01) hversion' hproof
    obtain ⟨hmac, -⟩ := DesCard.accept_of_protectCommand hlinks hmade
    -- no level with answer MACs is allowed here
    have hnone : ¬level.rMac = true := by
      have hoffered := hallows.2.2
      rw [hversion'] at hoffered
      exact hoffered.1
    exact ⟨hallows, has_of_usable hlinks henc, has_of_usable hlinks hmac,
      fun hlevel => absurd hlevel hnone⟩
  | scp02 =>
    -- the derived secrets of SCP02 have sixteen bytes, whatever the static keys are
    rw [hoffer] at hkeys
    exact ⟨hallows, has_of_serves (KeySet.serves_of_scp02Session hkeys (by decide)),
      has_of_serves (KeySet.serves_of_scp02Session hkeys (by decide)),
      fun _ => has_of_serves (KeySet.serves_of_scp02Session hkeys (by decide))⟩
  | scp03 =>
    rw [hoffer] at hkeys
    exact ⟨hallows, has_of_serves (KeySet.serves_of_scp03Session hkeys (by decide) (by decide)),
      has_of_serves (KeySet.serves_of_scp03Session hkeys (by decide) (by decide)),
      fun _ => has_of_serves (KeySet.serves_of_scp03Session hkeys (by decide) (by decide))⟩

/-! ### Protection of commands -/

namespace Equipped

/-- An equipped session protects every command that leaves room for it. -/
theorem exists_protectData (h : Equipped s) (cla : UInt8) {encipher : Bool}
    (hfits : command.dataBytes.length + (if encipher then 16 else 8) ≤ 255) :
    ∃ field chaining, s.protectData command cla encipher = .ok (field, chaining) := by
  rcases s.chaining.links_or_scp03 with ⟨p, commandMac, answerMac, hlinks⟩ | ⟨last, counter, hlinks⟩
  · -- each protocol takes its secrets and the same room
    obtain ⟨field, mac, hdata⟩ := exists_desData (p := p) (h.enc.usable hlinks)
      (h.mac.usable hlinks) commandMac command cla encipher hfits
    refine ⟨field, p.links (some mac) answerMac, ?_⟩
    rw [protectData_eq answerMac hlinks, hdata]
    rfl
  · obtain ⟨field, full, hdata⟩ := exists_scp03Data (h.enc.serves hlinks) (h.mac.serves hlinks)
      last counter command cla encipher hfits
    refine ⟨field, .scp03 full counter, ?_⟩
    unfold protectData
    rw [hlinks]
    exact bind_eq_ok_iff.2 ⟨(field, full), hdata, rfl⟩

/-- Its refusals are about the length of the data. -/
theorem protocol_of_protectData (h : Equipped s) {cla : UInt8} {encipher : Bool} {e : Error}
    (hfailed : s.protectData command cla encipher = .error e) : ∃ fault, e = .protocol fault := by
  rcases s.chaining.links_or_scp03 with ⟨p, commandMac, answerMac, hlinks⟩ | ⟨last, counter, hlinks⟩
  · rw [protectData_eq answerMac hlinks] at hfailed
    exact protocol_of_desData (h.enc.usable hlinks) (h.mac.usable hlinks)
      (map_eq_error_iff.1 hfailed)
  · unfold protectData at hfailed
    rw [hlinks] at hfailed
    -- besides the data there is nothing that could fail
    rcases bind_eq_error_iff.1 hfailed with hdata | ⟨made, -, hdata⟩
    · exact protocol_of_scp03Data (h.enc.serves hlinks) (h.mac.serves hlinks) hdata
    · cases hdata

/-- Counting a command takes nothing away. -/
theorem counted (h : Equipped s) (command : Command) : Equipped (s.counted command) :=
  h.relink s.chaining.version_count s.authenticated _

/-- **Commands are protected exactly within the limit.** -/
theorem wrap_ok_iff (h : Equipped s) (hauth : s.authenticated = true)
    (hmac : s.level.cMac = true) :
    (∃ wrapped, (s.wrap command).1 = .ok wrapped) ↔
      command.dataBytes.length ≤ s.maxDataLength := by
  rw [← room_iff_le_maxDataLength hmac]
  constructor
  · rintro ⟨wrapped, hwrap⟩
    have hcases := s.wrapped command
    generalize s.wrap command = outcome at hwrap hcases
    cases hcases with
    | early _ => cases hwrap
    | sent _ hmade =>
      obtain ⟨field, hfield, -⟩ := (protectCommand_eq_ok_iff hmac).1 hmade
      exact room_of_protectData hfield
    | failed _ _ => cases hwrap
  · intro hfits
    -- counting changes no secret, so that what the session had it has when the command is protected
    obtain ⟨field, chaining, hfield⟩ := (h.counted command).exists_protectData
      (command.cla ||| CommandClass.secureMessaging) hfits
    have hmade := (protectCommand_eq_ok_iff hmac).2 ⟨field, hfield, rfl⟩
    exact ⟨_, by rw [wrap_of_protectCommand hauth hmade]⟩

/-- A command that cannot be protected is one that has too much data for it. -/
theorem protocol_of_wrap (h : Equipped s) (hauth : s.authenticated = true) {e : Error}
    (hfailed : (s.wrap command).1 = .error e) : ∃ fault, e = .protocol fault := by
  have hcases := s.wrapped command
  generalize s.wrap command = outcome at hfailed hcases
  cases hcases with
  | early hnone => exact absurd (hnone.symm.trans hauth) Bool.false_ne_true
  | sent _ _ => cases hfailed
  | failed _ hprotect =>
    cases hfailed
    -- without command MACs there is nothing that could be refused
    cases hmac : s.level.cMac with
    | false =>
      rw [protectCommand_of_not_cMac hmac] at hprotect
      cases hprotect
    | true =>
      unfold protectCommand at hprotect
      rw [if_pos hmac] at hprotect
      rcases bind_eq_error_iff.1 hprotect with hdata | ⟨made, -, hdata⟩
      · exact (h.counted command).protocol_of_protectData hdata
      · cases hdata

/-- A command with too much data for the level is refused. -/
theorem exists_wrap_error (h : Equipped s) (hauth : s.authenticated = true)
    (hmac : s.level.cMac = true) (hlen : s.maxDataLength < command.dataBytes.length) :
    ∃ fault, (s.wrap command).1 = .error (.protocol fault) := by
  -- the command has too much data for a success, and a failure is about the data
  cases hwrap : (s.wrap command).1 with
  | ok wrapped =>
    have hfits := (h.wrap_ok_iff hauth hmac).1 ⟨wrapped, hwrap⟩
    exact absurd hlen (Nat.not_lt.2 hfits)
  | error e =>
    obtain ⟨fault, rfl⟩ := h.protocol_of_wrap hauth hwrap
    exact ⟨fault, rfl⟩

end Equipped

/-- At a level without command MACs, commands are passed on. -/
theorem wrap_of_not_cMac (hauth : s.authenticated = true) (hmac : s.level.cMac = false)
    (command : Command) : (s.wrap command).1 = .ok command := by
  rw [wrap_of_protectCommand hauth (protectCommand_of_not_cMac hmac)]

/-- A command with a MAC: the rest of the header and the expected length are as they were, and the
whole of it can be sent and read back. -/
structure Protects (command wrapped : Command) : Prop where
  ins_eq : wrapped.ins = command.ins
  p1_eq : wrapped.p1 = command.p1
  p2_eq : wrapped.p2 = command.p2
  le_eq : wrapped.le = command.le
  cla_eq : wrapped.cla = command.cla ||| CommandClass.secureMessaging
  cla_and : wrapped.cla &&& CommandClass.secureMessaging = CommandClass.secureMessaging
  /-- The data field has its MAC, and fits a short command. -/
  le_length : 8 ≤ wrapped.dataBytes.length
  length_le : wrapped.dataBytes.length ≤ 255
  validate_eq : wrapped.validate = .ok ()
  decode_eq : Command.decode wrapped.encode = .ok wrapped

theorem protects_of_wrap (hmac : s.level.cMac = true) {wrapped : Command}
    (hwrap : (s.wrap command).1 = .ok wrapped) : Protects command wrapped := by
  have hcases := s.wrapped command
  generalize s.wrap command = outcome at hwrap hcases
  cases hcases with
  | early _ => cases hwrap
  | failed _ _ => cases hwrap
  | sent _ hmade =>
    cases hwrap
    obtain ⟨field, hfield, rfl⟩ := (protectCommand_eq_ok_iff hmac).1 hmade
    have hlen := length_of_protectData hfield
    obtain ⟨body, mac, rfl, -⟩ := seals_of_protectData hfield
    -- the MAC alone makes the data field longer than nothing, so there is one
    have hpos : 8 ≤ (body ++ mac.toList).length := by
      rw [List.length_append, Block.length_toList]
      exact Nat.le_add_left 8 _
    have hne : body ++ mac.toList ≠ [] :=
      List.length_pos_iff.1 (Nat.lt_of_lt_of_le (by decide) hpos)
    rw [Command.withData_of_ne_nil hne]
    -- such a field is all that is asked of a command that is sent in the short form
    have hshort : Command.Short {
        command.withClass (command.cla ||| CommandClass.secureMessaging) with
        data := some (body ++ mac.toList) } := by
      rintro data ⟨⟩
      exact ⟨Nat.le_trans (by decide) hpos, hlen⟩
    exact ⟨rfl, rfl, rfl, rfl, rfl, CommandClass.secureMessaging_or _, hpos, hlen,
      Command.validate_of_short hshort, Command.decode_encode hshort⟩

/-! ### Answers -/

/-- The MAC of an answer can be made, unless SCP02 has no command that it could belong to. -/
theorem Equipped.security_of_answerMac (h : Equipped s) (hlevel : s.level.rMac = true)
    {awaited : Option Command} {body : Bytes} {status : StatusWord} {e : Error}
    (hfailed : s.answerMac awaited body status = .error e) :
    e = .security .answerWithoutCommand ∧ s.version = .scp02 ∧ awaited = none := by
  have hrmac := h.rmac hlevel
  unfold answerMac at hfailed
  cases hlinks : s.chaining with
  | scp01 commandMac =>
    -- no level of SCP01 has answer MACs
    have hallows := h.allows.2.2
    unfold version at hallows
    rw [hlinks] at hallows
    exact absurd hlevel hallows.1
  | scp02 commandMac lastMac =>
    rw [hlinks] at hfailed
    cases awaited with
    | none =>
      -- nothing has been sent that the answer could belong to
      cases hfailed
      exact ⟨rfl, congrArg Chaining.version hlinks, rfl⟩
    | some command =>
      -- the secret is one that triple DES can use, so neither step of the MAC fails
      have hrmac : s.Usable .rmac := Has.usable (p := .scp02) hrmac hlinks
      obtain ⟨secret, hsecret, husable⟩ := hrmac
      obtain ⟨mac, hmac⟩ := Mac.exists_retail husable lastMac (scp02AnswerInput command body status)
      have hfailed := bind_eq_error_of_ok hsecret hfailed
      have hfailed := bind_eq_error_of_ok (mapError_eq_ok_iff.2 hmac) hfailed
      cases hfailed
  | scp03 last counter =>
    rw [hlinks] at hfailed
    obtain ⟨secret, hsecret, hlen⟩ := exists_secret (hrmac.serves hlinks)
    obtain ⟨full, hfull⟩ := Cmac.exists_aes hlen (last.toList ++ body ++ status.toBytes)
    have hfailed := bind_eq_error_of_ok hsecret hfailed
    have hfailed := bind_eq_error_of_ok (mapError_eq_ok_iff.2 hfull) hfailed
    cases hfailed

/-- What cannot be deciphered was not enciphered as answers are. -/
theorem Equipped.protocol_of_answerData (h : Equipped s) {body : Bytes} {e : Error}
    (hfailed : s.answerData body = .error e) : ∃ fault, e = .protocol fault := by
  unfold answerData at hfailed
  rcases s.chaining.links_or_scp03 with ⟨p, commandMac, answerMac, hlinks⟩ | ⟨last, counter, hlinks⟩
  · rw [hlinks] at hfailed
    -- only SCP03 enciphers answers
    cases p with
    | scp01 => cases hfailed
    | scp02 => cases hfailed
  · rw [hlinks] at hfailed
    change (if _ then s.decipherAnswer counter body else _) = _ at hfailed
    split at hfailed
    · -- the secret is there, so what fails is the length of the data or its padding
      obtain ⟨secret, hsecret, hlen⟩ := exists_secret (h.enc.serves hlinks)
      obtain ⟨icv, hicv⟩ := Aes.exists_encryptBlock hlen (answerCounterBlock counter)
      have hfailed := bind_eq_error_of_ok hsecret hfailed
      have hfailed := bind_eq_error_of_ok (mapError_eq_ok_iff.2 hicv) hfailed
      rcases bind_eq_error_iff.1 hfailed with hpadded | ⟨padded, -, hunpad⟩
      · obtain ⟨fault, -, rfl⟩ := mapError_eq_error_iff.1 hpadded
        exact ⟨_, rfl⟩
      · obtain ⟨fault, -, rfl⟩ := mapError_eq_error_iff.1 hunpad
        exact ⟨_, rfl⟩
    · cases hfailed

/-- **What goes wrong with an answer is its own fault.** -/
theorem Equipped.not_isInternal_of_unwrap (h : Equipped s) {e : Error}
    (hfailed : (s.unwrap answer).1 = .error e) : ¬e.IsInternal := by
  have hcases := s.unwrapped answer
  generalize s.unwrap answer = outcome at hfailed hcases
  cases hcases with
  | unchecked _ => cases hfailed
  | short _ _ _ => cases hfailed
  | missing _ _ _ =>
    cases hfailed
    -- that a MAC is missing is the fault of the answer
    exact id
  | opened _ _ _ => cases hfailed
  | refused hlevel _ hrefused =>
    cases hfailed
    -- the MAC is made, compared with the one that came, and then the data are read
    rcases bind_eq_error_iff.1 hrefused with hmac | ⟨⟨mac, chaining⟩, -, hcompare⟩
    · rw [(h.security_of_answerMac hlevel hmac).1]
      exact id
    · rcases guard_eq_error_iff.1 hcompare with ⟨-, rfl⟩ | ⟨-, hread⟩
      · exact id
      · rcases bind_eq_error_iff.1 hread with hdata | ⟨data, -, hdata⟩
        · obtain ⟨fault, rfl⟩ := h.protocol_of_answerData hdata
          exact id
        · cases hdata

/-! ### All calls -/

/-- What holds of an authenticated session between two calls. -/
structure Limited (s : Session) : Prop where
  /-- The limit is exact. -/
  wrap_ok_iff : s.level.cMac = true → ∀ command,
    (∃ wrapped, (s.wrap command).1 = .ok wrapped) ↔ command.dataBytes.length ≤ s.maxDataLength
  /-- Beyond it, the error is about the length of the data. -/
  wrap_error : ∀ command e, (s.wrap command).1 = .error e → ∃ fault, e = .protocol fault
  /-- Without command MACs there is nothing to do. -/
  wrap_plain : s.level.cMac = false → ∀ command, (s.wrap command).1 = .ok command
  protects : s.level.cMac = true → ∀ command wrapped,
    (s.wrap command).1 = .ok wrapped → Protects command wrapped
  wrap_not_isInternal : ∀ command e, (s.wrap command).1 = .error e → ¬e.IsInternal
  unwrap_not_isInternal : ∀ answer e, (s.unwrap answer).1 = .error e → ¬e.IsInternal

theorem Equipped.limited (h : Equipped s) (hauth : s.authenticated = true) : Limited s where
  wrap_ok_iff := fun hmac _ => h.wrap_ok_iff hauth hmac
  wrap_error := fun _ _ hfailed => h.protocol_of_wrap hauth hfailed
  wrap_plain := fun hmac command => wrap_of_not_cMac hauth hmac command
  protects := fun hmac _ _ hwrap => protects_of_wrap hmac hwrap
  wrap_not_isInternal := by
    -- what is about the length of the data is no fault of the session
    intro command e hfailed
    obtain ⟨fault, rfl⟩ := h.protocol_of_wrap hauth hfailed
    exact id
  unwrap_not_isInternal := fun _ _ hfailed => h.not_isInternal_of_unwrap hfailed

/-- **No call takes from a session what it needs.** -/
theorem Equipped.after (h : Equipped s) (hauth : s.authenticated = true)
    (calls : List SessionCall) :
    Equipped (s.after calls) ∧ (s.after calls).authenticated = true := by
  refine keeps_after (P := fun r => Equipped r ∧ r.authenticated = true) ?_ ⟨h, hauth⟩ calls
  rintro r call ⟨hr, hauth⟩
  -- the secrets do not change, and neither protocol nor level does
  refine ⟨?_, authenticated_call hauth call⟩
  cases call with
  | authenticate level =>
    obtain ⟨e, hrefused⟩ := call_authenticate_of_authenticated hauth level
    rw [hrefused]
    exact hr
  | wrap command =>
    obtain ⟨chaining, pending, hversion, hafter⟩ := exists_wrap r command
    rw [call_wrap, hafter]
    exact hr.relink hversion r.authenticated pending
  | unwrap answer =>
    obtain ⟨chaining, hversion, hafter⟩ := exists_unwrap r answer
    rw [call_unwrap, hafter]
    exact hr.relink hversion r.authenticated none

/-- A session that the host has proved itself in has all it needs, whatever calls came before the
proof and after it. -/
theorem equipped_after {staticKeys : KeySet} {offer : CardOffer} {challenge : Block 8}
    {parameters : Option UInt8} (hstart : start staticKeys offer challenge parameters = .ok first)
    {calls : List SessionCall} {proof : Command} {host : Session}
    (hauth : (first.after calls).authenticate level = .ok (proof, host))
    (later : List SessionCall) :
    Equipped (host.after later) ∧ (host.after later).authenticated = true := by
  -- calls before the proof have changed nothing, so it was made by the session that was started
  rw [(unlinked_of_start hstart).after_eq_of_authenticate hauth] at hauth
  exact (equipped_of_authenticate hstart hauth).after (authenticated_of_authenticate hauth) later

/-- A session in use: it was started, the host has proved itself at some level, and all kinds of
calls were made to it before and after. -/
inductive InUse : Session → Prop
  | after {staticKeys : KeySet} {offer : CardOffer} {challenge : Block 8}
    {parameters : Option UInt8} {first : Session} {calls : List SessionCall}
    {level : SecurityLevel} {proof : Command} {host : Session}
    (hstart : start staticKeys offer challenge parameters = .ok first)
    (hauth : (first.after calls).authenticate level = .ok (proof, host))
    (later : List SessionCall) : InUse (host.after later)

/-- A session is in use as soon as the host's proof is made. -/
theorem inUse_of_authenticate {staticKeys : KeySet} {offer : CardOffer} {challenge : Block 8}
    {parameters : Option UInt8} (hstart : start staticKeys offer challenge parameters = .ok first)
    {proof : Command} {host : Session} (hauth : first.authenticate level = .ok (proof, host)) :
    InUse host := by
  have hafter : (first.after []).authenticate level = .ok (proof, host) := hauth
  exact .after hstart hafter []

theorem InUse.equipped (h : InUse s) : Equipped s ∧ s.authenticated = true := by
  cases h with
  | after hstart hauth later => exact equipped_after hstart hauth later

/-- A session in use protects every command with at most 239 bytes of data, at every level. -/
theorem InUse.exists_wrap (h : InUse s) (hlen : command.dataBytes.length ≤ 239) :
    ∃ wrapped, (s.wrap command).1 = .ok wrapped := by
  obtain ⟨hequipped, hauth⟩ := h.equipped
  cases hmac : s.level.cMac with
  | true => exact (hequipped.wrap_ok_iff hauth hmac).2 (Nat.le_trans hlen s.le_maxDataLength)
  | false => exact ⟨command, wrap_of_not_cMac hauth hmac command⟩

/-- **The limits of a session are exact, and nothing else stands in its way.** Whatever calls were
made to a session before the host's proof and after it, the laws of `Limited` hold of it. -/
theorem limited_after {staticKeys : KeySet} {offer : CardOffer} {challenge : Block 8}
    {parameters : Option UInt8} (hstart : start staticKeys offer challenge parameters = .ok first)
    {calls : List SessionCall} {proof : Command} {host : Session}
    (hauth : (first.after calls).authenticate level = .ok (proof, host))
    (later : List SessionCall) : Limited (host.after later) := by
  obtain ⟨hequipped, hafter⟩ := equipped_after hstart hauth later
  exact hequipped.limited hafter

/-- The recorded session at the full level takes 239 bytes of data, and no more. -/
theorem limited_after_recorded : ∃ first proof host,
    start Scp03Card.recordedKeys Scp03Card.recordedOffer Scp03Card.recordedChallenge none =
        .ok first ∧
      (first.after [.wrap (Command.getData 0x9F7F)]).authenticate .full = .ok (proof, host) ∧
      Limited (host.after []) ∧
      (∃ wrapped,
        (host.wrap ⟨0x80, 0xE2, 0x80, 0x00, some (List.replicate 239 0), none⟩).1 = .ok wrapped) ∧
      ∃ fault, (host.wrap ⟨0x80, 0xE2, 0x80, 0x00, some (List.replicate 240 0), none⟩).1 =
        .error (.protocol fault) := by
  obtain ⟨first, proof, host, hstart, hauth⟩ := Scp03Card.recorded_authenticates
  -- a command before the proof is refused, and leaves no trace
  have hfirst : first.after [.wrap (Command.getData 0x9F7F)] = first := by
    rw [after_cons, call_wrap, (unlinked_of_start hstart).wrap_eq]
    rfl
  have hlimited : Limited (host.after []) := limited_after hstart (hfirst.symm ▸ hauth) []
  have hlevel : host.level = .full := by
    obtain ⟨-, -, cryptogram, chaining, -, -, rfl⟩ := authenticate_eq_ok_iff.1 hauth
    rfl
  have hmac : host.level.cMac = true := by rw [hlevel]; rfl
  have hroom : host.maxDataLength = 239 := by
    unfold maxDataLength
    rw [hlevel]
    rfl
  refine ⟨first, proof, host, hstart, by rw [hfirst]; exact hauth, hlimited, ?_, ?_⟩
  · refine (hlimited.wrap_ok_iff hmac _).2 (Nat.le_of_eq ?_)
    exact List.length_replicate.trans hroom.symm
  · cases hwrap : (host.wrap ⟨0x80, 0xE2, 0x80, 0x00, some (List.replicate 240 0), none⟩).1 with
    | ok wrapped =>
      -- the limit of the level is 239, and it is exact
      have hlen := (hlimited.wrap_ok_iff hmac _).1 ⟨wrapped, hwrap⟩
      change (List.replicate 240 (0 : UInt8)).length ≤ host.maxDataLength at hlen
      rw [List.length_replicate, hroom] at hlen
      exact absurd hlen (by decide)
    | error e =>
      obtain ⟨fault, rfl⟩ := hlimited.wrap_error _ e hwrap
      exact ⟨fault, rfl⟩

end Session

end SmartCard
