import SmartCard.Proofs.Channel.Limits
import SmartCard.Proofs.Channel.Transcript

/-!
# Authentic answers

Which answers a session passes on, where answers carry a MAC, and what it makes of them. What a card
puts behind an answer is said apart from the session, by the secrets that the two share and the
links between them (`Session.Owes`), and so is what an answer says once its MAC is taken off
(`Session.Reads`). `Session.Verdict` lists all that can come of an answer in these terms.

The MAC that the session computes is the one that the card owes (`Session.answerMac_eq_ok_iff`), and
what it reads is what the answer says (`Session.Reads.answerData_eq`). So every verdict is the one
that the session gives (`Session.Verdict.unwrap_eq`). A session in use has what it takes to compare
and to read, so some verdict fits every answer (`Session.Equipped.exists_verdict`).
`Session.discerns_of_inUse` puts the two together. -/

namespace SmartCard

/-- Success, and the warnings, tell that the command was completed. -/
theorem StatusWord.isCompleted_iff {status : StatusWord} :
    status.isCompleted = true ↔ status = .success ∨ status.sw1 = 0x62 ∨ status.sw1 = 0x63 := by
  unfold isCompleted isSuccess isWarning
  rw [Bool.or_eq_true, Bool.or_eq_true, beq_iff_eq, beq_iff_eq, beq_iff_eq]

/-- The links after an answer with this MAC: SCP02 links the next answer to it. -/
def Chaining.reply (mac : Block 8) : Chaining → Chaining
  | scp02 commandMac _ => scp02 commandMac mac
  | other => other

namespace Session

variable {s : Session} {answer : Response} {body data : Bytes} {status : StatusWord}
  {mac : Block 8}

/-! ### What a card owes -/

/-- The MAC that a card with the secrets of the session puts behind an answer. -/
inductive Owes (s : Session) (body : Bytes) (status : StatusWord) : Block 8 → Prop
  /-- In SCP02 it goes on from the MAC of the last answer, over the awaited command and the
  answer. -/
  | scp02 {commandMac : Option (Block 8)} {last mac : Block 8} {command : Command} {secret : Bytes}
    (hlinks : s.chaining = .scp02 commandMac last) (hpending : s.pending = some command)
    (hsecret : s.keys.secret? .rmac = some secret)
    (hmac : Mac.retail secret last (DesCard.answerInput command ⟨body, status⟩) = .ok mac) :
    Owes s body status mac
  /-- In SCP03 it is half of a MAC over the full MAC of the last command and the answer. -/
  | scp03 {last full : Block 16} {counter : UInt32} {secret : Bytes}
    (hlinks : s.chaining = .scp03 last counter) (hsecret : s.keys.secret? .rmac = some secret)
    (hmac : Cmac.aes secret (last.toList ++ body ++ status.toBytes) = .ok full) :
    Owes s body status full.leftHalf

/-- **The host computes what the card owes**, and goes on from it. -/
theorem answerMac_eq_ok_iff {chaining : Chaining} :
    s.answerMac s.pending body status = .ok (mac, chaining) ↔
      s.Owes body status mac ∧ s.chaining.reply mac = chaining := by
  constructor
  · intro h
    -- the host takes its secrets from the session, and the card from the keys, which are the same
    rcases answerMac_eq_ok h with
      ⟨commandMac, last, command, secret, hlinks, hpending, hsecret, hmac, rfl⟩ |
      ⟨last, counter, secret, full, hlinks, hsecret, hmac, rfl, rfl⟩
    · exact ⟨.scp02 hlinks hpending (secret?_of_secret hsecret) hmac, by rw [hlinks]; rfl⟩
    · exact ⟨.scp03 hlinks (secret?_of_secret hsecret) hmac, by rw [hlinks]; rfl⟩
  · rintro ⟨howes, rfl⟩
    cases howes with
    | scp02 hlinks hpending hsecret hmac =>
      unfold answerMac
      rw [hlinks, hpending]
      exact bind_eq_ok_iff.2 ⟨_, secret_of_secret? hsecret,
        bind_eq_ok_iff.2 ⟨mac, mapError_eq_ok_iff.2 hmac, rfl⟩⟩
    | scp03 hlinks hsecret hmac =>
      unfold answerMac
      rw [hlinks]
      exact bind_eq_ok_iff.2 ⟨_, secret_of_secret? hsecret,
        bind_eq_ok_iff.2 ⟨_, mapError_eq_ok_iff.2 hmac, rfl⟩⟩

/-! ### What an answer says -/

/-- What SCP03 deciphers an answer to: the chain starts at the enciphered counter block of
answers. -/
def Deciphers (s : Session) (body padded : Bytes) : Prop :=
  ∃ last counter secret icv, s.chaining = .scp03 last counter ∧
    s.keys.secret? .enc = some secret ∧
    Aes.encryptBlock secret (answerCounterBlock counter) = .ok icv ∧
    Aes.cbcDecrypt secret icv body = .ok padded

/-- What an answer says, once its MAC is taken off. -/
inductive Reads (s : Session) (body : Bytes) : Bytes → Prop
  | plain (hplain : s.level.rEnc = false ∨ body = []) : Reads s body body
  | deciphered {data : Bytes} {zeros : Nat} (hlevel : s.level.rEnc = true) (hbody : body ≠ [])
    (hpadded : s.Deciphers body (data ++ 0x80 :: List.replicate zeros 0)) : Reads s body data

/-- The faults of an answer that says nothing. -/
inductive Garbled (s : Session) (body : Bytes) : ProtocolFault → Prop
  | unaligned (hlevel : s.level.rEnc = true) (hlen : body.length % 16 ≠ 0) :
    Garbled s body .unalignedAnswer
  | unpadded {padded : Bytes} (hlevel : s.level.rEnc = true) (hbody : body ≠ [])
    (hpadded : s.Deciphers body padded)
    (hnone : ∀ data zeros, padded ≠ data ++ 0x80 :: List.replicate zeros 0) :
    Garbled s body .unpaddedAnswer

theorem answerData_of_plain (h : s.level.rEnc = false ∨ body = []) :
    s.answerData body = .ok body := by
  -- one of the two is enough to leave the data alone
  have hplain : (s.level.rEnc && !body.isEmpty) = false := by
    rcases h with h | rfl
    · rw [h]
      rfl
    · rw [List.isEmpty_nil, Bool.not_true, Bool.and_false]
  unfold answerData
  rw [hplain]
  cases s.chaining with
  | scp01 commandMac => rfl
  | scp02 commandMac last => rfl
  | scp03 last counter => rfl

theorem answerData_of_enciphered (hlevel : s.level.rEnc = true) (hbody : body ≠ [])
    {last : Block 16} {counter : UInt32} (hlinks : s.chaining = .scp03 last counter) :
    s.answerData body = s.decipherAnswer counter body := by
  unfold answerData
  rw [hlinks]
  change (if (s.level.rEnc && !body.isEmpty) = true then _ else _) = _
  rw [hlevel, List.isEmpty_eq_false_iff.2 hbody]
  rfl

/-- Once the chain has a start, the length of the data and their padding are left to fail. -/
theorem decipherAnswer_of_icv {counter : UInt32} {secret : Bytes} {icv : Block 16}
    (hsecret : s.secret .enc = .ok secret)
    (hicv : Aes.encryptBlock secret (answerCounterBlock counter) = .ok icv) (body : Bytes) :
    s.decipherAnswer counter body =
      ((Aes.cbcDecrypt secret icv body).mapError fun _ => .protocol .unalignedAnswer) >>=
        fun padded => (Padding.unpad padded).mapError fun _ => .protocol .unpaddedAnswer := by
  unfold decipherAnswer
  rw [hsecret]
  change ((Aes.encryptBlock secret (answerCounterBlock counter)).mapError _ >>= _) = _
  rw [hicv]
  rfl

theorem answerData_of_deciphers (hlevel : s.level.rEnc = true) (hbody : body ≠ [])
    {padded : Bytes} (h : s.Deciphers body padded) :
    s.answerData body =
      (Padding.unpad padded).mapError fun _ => .protocol .unpaddedAnswer := by
  obtain ⟨last, counter, secret, icv, hlinks, hsecret, hicv, hpadded⟩ := h
  -- the chain has a start, so what is left is the padding of what was deciphered
  rw [answerData_of_enciphered hlevel hbody hlinks,
    decipherAnswer_of_icv (secret_of_secret? hsecret) hicv, hpadded]
  rfl

/-- **The host reads what the answer says.** -/
theorem Reads.answerData_eq (h : s.Reads body data) : s.answerData body = .ok data := by
  cases h with
  | plain hplain => exact answerData_of_plain hplain
  | deciphered hlevel hbody hpadded =>
    rw [answerData_of_deciphers hlevel hbody hpadded, Padding.unpad_eq_ok_iff.2 ⟨_, rfl⟩]
    rfl

namespace Equipped

/-- Only SCP03 has levels with enciphered answers. -/
theorem exists_links_of_rEnc (h : Equipped s) (hlevel : s.level.rEnc = true) :
    ∃ last counter, s.chaining = .scp03 last counter := by
  -- the levels of the other protocols leave answers in clear
  have hallows := h.allows.2.2
  unfold version at hallows
  cases hlinks : s.chaining with
  | scp01 commandMac =>
    rw [hlinks] at hallows
    exact absurd hlevel hallows.2
  | scp02 commandMac last =>
    rw [hlinks] at hallows
    exact absurd hlevel hallows
  | scp03 last counter => exact ⟨last, counter, rfl⟩

theorem exists_deciphers (h : Equipped s) (hlevel : s.level.rEnc = true)
    (hlen : body.length % 16 = 0) : ∃ padded, s.Deciphers body padded := by
  obtain ⟨last, counter, hlinks⟩ := h.exists_links_of_rEnc hlevel
  obtain ⟨secret, hsecret, hsecretLen⟩ := exists_secret (h.enc.serves hlinks)
  obtain ⟨icv, hicv⟩ := Aes.exists_encryptBlock hsecretLen (answerCounterBlock counter)
  -- data in whole blocks are always deciphered, to whatever it may be
  obtain ⟨padded, hpadded⟩ := Aes.exists_cbcDecrypt hsecretLen hlen icv
  exact ⟨padded, last, counter, secret, icv, hlinks, secret?_of_secret hsecret, hicv, hpadded⟩

/-- **The host finds the fault** of an answer that says nothing. -/
theorem answerData_of_garbled (h : Equipped s) {fault : ProtocolFault}
    (hgarbled : s.Garbled body fault) : s.answerData body = .error (.protocol fault) := by
  cases hgarbled with
  | unaligned hlevel hlen =>
    -- no data at all would be aligned
    have hbody : body ≠ [] := by
      rintro rfl
      exact hlen rfl
    obtain ⟨last, counter, hlinks⟩ := h.exists_links_of_rEnc hlevel
    obtain ⟨secret, hsecret, hsecretLen⟩ := exists_secret (h.enc.serves hlinks)
    obtain ⟨icv, hicv⟩ := Aes.exists_encryptBlock hsecretLen (answerCounterBlock counter)
    rw [answerData_of_enciphered hlevel hbody hlinks, decipherAnswer_of_icv hsecret hicv]
    cases hopened : Aes.cbcDecrypt secret icv body with
    | ok padded => exact absurd (Aes.aligned_of_cbcDecrypt hopened) hlen
    | error e => rfl
  | @unpadded padded hlevel hbody hpadded hnone =>
    rw [answerData_of_deciphers hlevel hbody hpadded]
    cases hunpad : Padding.unpad padded with
    -- what can be unpadded ends in a padding, which was ruled out
    | ok data =>
      obtain ⟨zeros, hpadding⟩ := Padding.unpad_eq_ok_iff.1 hunpad
      exact absurd hpadding (hnone data zeros)
    | error e => rfl

/-- An answer says something, or it has a fault. -/
theorem reads_or_garbled (h : Equipped s) (body : Bytes) :
    (∃ data, s.Reads body data) ∨ ∃ fault, s.Garbled body fault := by
  -- the first fault is looked for first: the length, and then the padding
  by_cases hplain : s.level.rEnc = false ∨ body = []
  · exact .inl ⟨body, .plain hplain⟩
  · rw [not_or, Bool.not_eq_false] at hplain
    obtain ⟨hlevel, hbody⟩ := hplain
    by_cases hlen : body.length % 16 = 0
    · obtain ⟨padded, hpadded⟩ := h.exists_deciphers hlevel hlen
      by_cases hpadding : ∃ data zeros, padded = data ++ 0x80 :: List.replicate zeros 0
      · obtain ⟨data, zeros, rfl⟩ := hpadding
        exact .inl ⟨data, .deciphered hlevel hbody hpadded⟩
      · have hnone : ∀ data zeros, padded ≠ data ++ 0x80 :: List.replicate zeros 0 :=
          fun data zeros heq => hpadding ⟨data, zeros, heq⟩
        exact .inr ⟨_, .unpadded hlevel hbody hpadded hnone⟩
    · exact .inr ⟨_, .unaligned hlevel hlen⟩

/-- **A card owes a MAC** for whatever it has to say, unless SCP02 awaits no answer. -/
theorem exists_owes (h : Equipped s) (hlevel : s.level.rMac = true)
    (hpending : s.version = .scp02 → s.pending ≠ none) (body : Bytes) (status : StatusWord) :
    ∃ mac, s.Owes body status mac := by
  cases hmac : s.answerMac s.pending body status with
  | ok made => exact ⟨made.1, (answerMac_eq_ok_iff.1 hmac).1⟩
  | error e =>
    obtain ⟨-, hversion, hnone⟩ := h.security_of_answerMac hlevel hmac
    -- the only MAC that cannot be made is that for a command that is not awaited
    exact absurd hnone (hpending hversion)

end Equipped

/-! ### Verdicts -/

/-- The session after an answer that was looked at: no command is awaited any more. -/
def answered (s : Session) : Session := { s with pending := none }

/-- All that can come of an answer: what the caller gets, and the session after it. -/
inductive Verdict (s : Session) (answer : Response) : Except Error Response × Session → Prop
  /-- Answers carry no MAC. -/
  | unchecked (hlevel : s.level.rMac = false) : Verdict s answer (.ok answer, s.answered)
  /-- A card that refuses a command may do so without a MAC. -/
  | refusal (hlevel : s.level.rMac = true) (hlen : answer.payload.length < 8)
    (hstatus : ¬(answer.status = .success ∨ answer.status.sw1 = 0x62 ∨ answer.status.sw1 = 0x63)) :
    Verdict s answer (.ok answer, s.answered)
  | missing (hlevel : s.level.rMac = true) (hlen : answer.payload.length < 8)
    (hstatus : answer.status = .success ∨ answer.status.sw1 = 0x62 ∨ answer.status.sw1 = 0x63) :
    Verdict s answer (.error (.security (.answerWithoutMac answer.status)), s.answered)
  /-- In SCP02 the MAC is made over a command, and none is awaited. -/
  | unasked (hlevel : s.level.rMac = true) (hlen : 8 ≤ answer.payload.length)
    (hversion : s.version = .scp02) (hpending : s.pending = none) :
    Verdict s answer (.error (.security .answerWithoutCommand), s.answered)
  | forged {body : Bytes} {mac owed : Block 8} (hlevel : s.level.rMac = true)
    (hpayload : answer.payload = body ++ mac.toList) (howes : s.Owes body answer.status owed)
    (hne : mac ≠ owed) : Verdict s answer (.error (.security .answerMac), s.answered)
  | garbled {body : Bytes} {mac : Block 8} {fault : ProtocolFault} (hlevel : s.level.rMac = true)
    (hpayload : answer.payload = body ++ mac.toList) (howes : s.Owes body answer.status mac)
    (hgarbled : s.Garbled body fault) : Verdict s answer (.error (.protocol fault), s.answered)
  | authentic {body data : Bytes} {mac : Block 8} (hlevel : s.level.rMac = true)
    (hpayload : answer.payload = body ++ mac.toList) (howes : s.Owes body answer.status mac)
    (hreads : s.Reads body data) :
    Verdict s answer
      (.ok ⟨data, answer.status⟩, { s.answered with chaining := s.chaining.reply mac })

/-- **Every verdict is the one that the session gives.** -/
theorem Verdict.unwrap_eq (h : Equipped s) {outcome : Except Error Response × Session}
    (hverdict : s.Verdict answer outcome) : s.unwrap answer = outcome := by
  -- where the answer ends in a MAC, what comes of it is what comes of opening it
  have hopen {body : Bytes} {mac : Block 8} (hpayload : answer.payload = body ++ mac.toList) :
      8 ≤ answer.payload.length ∧ s.openAnswer s.pending answer =
        s.answerMac s.pending body answer.status >>= fun made =>
          if made.1 = mac then
            (s.answerData body).map fun data => (⟨data, answer.status⟩, made.2)
          else .error (.security .answerMac) := by
    refine ⟨exists_append_mac_iff.1 ⟨body, mac, hpayload⟩, ?_⟩
    exact (congrArg (fun payload => s.openAnswer s.pending ⟨payload, answer.status⟩)
      hpayload).trans (openAnswer_append s.pending body mac answer.status)
  -- the MAC that the card owes is the one that the host computes
  have hexpected {body : Bytes} {owed : Block 8} (howes : s.Owes body answer.status owed) :
      s.answerMac s.pending body answer.status = .ok (owed, s.chaining.reply owed) :=
    answerMac_eq_ok_iff.2 ⟨howes, rfl⟩
  cases hverdict with
  | unchecked hlevel => exact unwrap_of_not_rMac hlevel answer
  | refusal hlevel hlen hstatus =>
    rw [← StatusWord.isCompleted_iff, Bool.not_eq_true] at hstatus
    rw [unwrap_of_short hlevel hlen, hstatus]
    rfl
  | missing hlevel hlen hstatus =>
    rw [← StatusWord.isCompleted_iff] at hstatus
    rw [unwrap_of_short hlevel hlen, hstatus]
    rfl
  | unasked hlevel hlen hversion hpending =>
    -- there is room for a MAC, so the answer is opened, and then no command is found to make it for
    obtain ⟨body, mac, hpayload⟩ := exists_append_mac_iff.2 hlen
    refine unwrap_of_openAnswer_error hlevel hlen ?_
    rw [(hopen hpayload).2, hpending]
    unfold version at hversion
    unfold answerMac
    cases hlinks : s.chaining with
    | scp01 commandMac =>
      rw [hlinks] at hversion
      cases hversion
    | scp02 commandMac last => rfl
    | scp03 last counter =>
      rw [hlinks] at hversion
      cases hversion
  | @forged body mac owed hlevel hpayload howes hne =>
    obtain ⟨hlen, hopened⟩ := hopen hpayload
    refine unwrap_of_openAnswer_error hlevel hlen ?_
    -- the MAC that is owed is computed, and the one that came is another
    rw [hopened, hexpected howes]
    change (if owed = mac then _ else _) = _
    rw [if_neg (Ne.symm hne)]
  | @garbled body mac fault hlevel hpayload howes hgarbled =>
    obtain ⟨hlen, hopened⟩ := hopen hpayload
    refine unwrap_of_openAnswer_error hlevel hlen ?_
    rw [hopened, hexpected howes]
    change (if mac = mac then _ else _) = _
    -- the MAC agrees, and then the data are found to say nothing
    rw [if_pos rfl, h.answerData_of_garbled hgarbled]
    rfl
  | @authentic body data mac hlevel hpayload howes hreads =>
    obtain ⟨hlen, hopened⟩ := hopen hpayload
    refine unwrap_of_openAnswer hlevel hlen ?_
    rw [hopened, hexpected howes]
    change (if mac = mac then _ else _) = _
    rw [if_pos rfl, hreads.answerData_eq]
    rfl

/-- **Some verdict fits every answer.** -/
theorem Equipped.exists_verdict (h : Equipped s) (answer : Response) :
    ∃ outcome, s.Verdict answer outcome := by
  cases hlevel : s.level.rMac with
  | false => exact ⟨_, .unchecked hlevel⟩
  | true =>
    -- from the length on, each case is one verdict: no room, no command, a wrong MAC, or what the
    -- data say
    by_cases hlen : 8 ≤ answer.payload.length
    · by_cases hpending : s.version = .scp02 ∧ s.pending = none
      · exact ⟨_, .unasked hlevel hlen hpending.1 hpending.2⟩
      · rw [not_and] at hpending
        obtain ⟨body, mac, hpayload⟩ := exists_append_mac_iff.2 hlen
        obtain ⟨owed, howes⟩ := h.exists_owes hlevel hpending body answer.status
        by_cases heq : mac = owed
        · subst heq
          rcases h.reads_or_garbled body with ⟨data, hreads⟩ | ⟨fault, hgarbled⟩
          · exact ⟨_, .authentic hlevel hpayload howes hreads⟩
          · exact ⟨_, .garbled hlevel hpayload howes hgarbled⟩
        · exact ⟨_, .forged hlevel hpayload howes heq⟩
    · rw [Nat.not_le] at hlen
      by_cases hstatus : answer.status = .success ∨ answer.status.sw1 = 0x62 ∨
          answer.status.sw1 = 0x63
      · exact ⟨_, .missing hlevel hlen hstatus⟩
      · exact ⟨_, .refusal hlevel hlen hstatus⟩

/-! ### All sessions -/

/-- How a session tells authentic answers from others. -/
structure Discerns (s : Session) : Prop where
  /-- The verdicts are exact. -/
  unwrap_eq_iff : ∀ answer outcome, s.unwrap answer = outcome ↔ s.Verdict answer outcome
  /-- For each answer there is at most one MAC that a card may owe. -/
  owes_unique : ∀ body status mac mac', s.Owes body status mac → s.Owes body status mac' →
    mac = mac'
  status_eq : ∀ answer plain, (s.unwrap answer).1 = .ok plain → plain.status = answer.status
  /-- A failure leaves the links as they were. -/
  chaining_of_error : ∀ answer e, (s.unwrap answer).1 = .error e →
    (s.unwrap answer).2.chaining = s.chaining
  /-- Of the links, only the MAC of the last answer is ever replaced, by the MAC that was owed. -/
  chaining_eq : ∀ answer, (s.unwrap answer).2.chaining = s.chaining ∨
    s.version = .scp02 ∧ ∃ body mac, answer.payload = body ++ mac.toList ∧
      s.Owes body answer.status mac ∧ (s.unwrap answer).2.chaining = s.chaining.reply mac

theorem Owes.unique {mac' : Block 8} (h : s.Owes body status mac) (h' : s.Owes body status mac') :
    mac = mac' := by
  -- there is one outcome of computing the MAC, and both are it
  have hmac := answerMac_eq_ok_iff.2 ⟨h, rfl⟩
  have hmac' := answerMac_eq_ok_iff.2 ⟨h', rfl⟩
  cases hmac.symm.trans hmac'
  rfl

/-- SCP03 links its answers to commands alone. -/
theorem Owes.reply_eq (h : s.Owes body status mac) :
    s.chaining.reply mac = s.chaining ∨ s.version = .scp02 := by
  unfold version
  cases h with
  | scp02 hlinks hpending hsecret hmac =>
    rw [hlinks]
    exact .inr rfl
  | scp03 hlinks hsecret hmac =>
    rw [hlinks]
    exact .inl rfl

/-- **A session in use passes on exactly the authentic answers.** Whatever calls were made to it,
and whatever the answer is, what comes of it is the one verdict that fits the answer. -/
theorem discerns_of_inUse (h : InUse s) : Discerns s := by
  obtain ⟨hequipped, -⟩ := h.equipped
  -- the session gives one verdict, and every verdict that fits is the one it gives
  have hexact (answer : Response) (outcome : Except Error Response × Session) :
      s.unwrap answer = outcome ↔ s.Verdict answer outcome := by
    constructor
    · rintro rfl
      obtain ⟨outcome, hverdict⟩ := hequipped.exists_verdict answer
      rw [hverdict.unwrap_eq hequipped]
      exact hverdict
    · exact fun hverdict => hverdict.unwrap_eq hequipped
  refine ⟨hexact, fun _ _ _ _ howes howes' => howes.unique howes',
    fun _ _ hplain => status_of_unwrap hplain, fun answer e hfailed => ?_, fun answer => ?_⟩
  · -- of the verdicts, those with an error all leave `s.answered`
    have hverdict := (hexact answer _).1 rfl
    generalize s.unwrap answer = outcome at hfailed hverdict
    cases hverdict with
    | unchecked _ => cases hfailed
    | refusal _ _ _ => cases hfailed
    | missing _ _ _ => rfl
    | unasked _ _ _ _ => rfl
    | forged _ _ _ _ => rfl
    | garbled _ _ _ _ => rfl
    | authentic _ _ _ _ => cases hfailed
  · have hverdict := (hexact answer _).1 rfl
    generalize s.unwrap answer = outcome at hverdict
    cases hverdict with
    | unchecked _ => exact .inl rfl
    | refusal _ _ _ => exact .inl rfl
    | missing _ _ _ => exact .inl rfl
    | unasked _ _ _ _ => exact .inl rfl
    | forged _ _ _ _ => exact .inl rfl
    | garbled _ _ _ _ => exact .inl rfl
    -- an authentic answer is the only one that is linked
    | @authentic body data mac _ hpayload howes _ =>
      rcases howes.reply_eq with hreply | hversion
      · exact .inl hreply
      · exact .inr ⟨hversion, body, mac, hpayload, howes, rfl⟩

/-- In the recorded session at the full level, exactly one MAC makes an answer authentic. -/
theorem discerns_of_inUse_recorded : ∃ (s : Session) (mac : Block 8),
    InUse s ∧ s.level = .full ∧ Discerns s ∧
      s.unwrap ⟨mac.toList, .success⟩ = (.ok ⟨[], .success⟩, s.answered) ∧
      ∀ other : Block 8, other ≠ mac →
        s.unwrap ⟨other.toList, .success⟩ = (.error (.security .answerMac), s.answered) := by
  obtain ⟨first, proof, host, hstart, hauth⟩ := Scp03Card.recorded_authenticates
  have hinUse := inUse_of_authenticate hstart hauth
  have hdiscerns := discerns_of_inUse hinUse
  have hfull : host.level = .full := level_of_authenticate hauth
  have hlevel : host.level.rMac = true := by rw [hfull]; rfl
  have hversion : host.version = .scp03 := version_of_authenticate hstart hauth
  -- no level of SCP03 waits for a command, so the card owes a MAC for any answer
  obtain ⟨mac, howes⟩ := hinUse.equipped.1.exists_owes hlevel
    (fun hscp02 => by cases hscp02.symm.trans hversion) [] .success
  refine ⟨host, mac, hinUse, hfull, hdiscerns, ?_, fun other hne => ?_⟩
  · have hreply : host.chaining.reply mac = host.chaining := by
      rcases howes.reply_eq with hreply | hscp02
      · exact hreply
      · cases hscp02.symm.trans hversion
    -- an answer of eight bytes is a MAC without data
    have hverdict : host.Verdict ⟨mac.toList, .success⟩ _ :=
      .authentic hlevel (List.nil_append _).symm howes (.plain (.inr rfl))
    rw [(hdiscerns.unwrap_eq_iff _ _).2 hverdict, hreply]
    rfl
  · exact (hdiscerns.unwrap_eq_iff _ _).2 (.forged hlevel (List.nil_append _).symm howes hne)

end Session

end SmartCard
