import SmartCard.Proofs.Management.KeyReplacement

/-!
# All or nothing

A replacement of keys asks for the key slots and then sends all keys in one command. Each step sends
at most one command, and one if it succeeds (`ContentManager.Sends`).

`ContentManager.exists_allOrNothing` puts them together, for every channel, every set of keys and
every card (`ContentManager.AllOrNothing`). No key is sent unless the version, the answer about the
key slots, the check of the set and the enciphering of every single key leave no objection. The
replacement succeeds exactly if the keys were sent and the card has accepted them. -/

namespace SmartCard

open SecureChannel ChannelM

variable {L : Type} [CardLink L] {ch : SecureChannel (Tapped L)} {command : Command}
  {bytes : Bytes}

/-! ### How much one command sends -/

namespace SecureChannel

theorem length_sent_transmit_le (ch : SecureChannel (Tapped L)) (command : Command) :
    (ch.transmit command).2.link.sent.length ≤ ch.link.sent.length + 1 := by
  rcases link_transmit ch command with hlink | ⟨session, wrapped, -, -, -, hlink⟩
  · rw [hlink]
    exact Nat.le_succ _
  · rw [hlink]
    exact ch.link.length_sent_le wrapped

/-- What is answered was sent. -/
theorem length_sent_of_transmit_ok {answer : Response}
    (h : (ch.transmit command).1 = .ok answer) :
    (ch.transmit command).2.link.sent.length = ch.link.sent.length + 1 := by
  have hsent : ch.transmit command = (.ok answer, (ch.transmit command).2) := Prod.ext h rfl
  obtain ⟨p, hp, -⟩ := transmit_eq_ok_iff.1 hsent
  rw [hp.goesOn]
  exact Tapped.length_sent_of_ok hp.answers

end SecureChannel

namespace ContentManager

variable {candidate : KeySet} {replaced : UInt8}

theorem length_sent_transmitEither_le (ch : SecureChannel (Tapped L)) (command : Command) :
    (ExceptT.run (transmitEither command) ch).2.link.sent.length ≤ ch.link.sent.length + 1 := by
  rw [run_transmitEither]
  split
  · exact length_sent_transmit_le ch command
  · exact ch.link.length_sent_le command

theorem length_sent_of_transmitEither_ok {answer : Response}
    (h : (ExceptT.run (transmitEither command) ch).1 = .ok answer) :
    (ExceptT.run (transmitEither command) ch).2.link.sent.length = ch.link.sent.length + 1 := by
  rw [run_transmitEither] at h ⊢
  split at h
  · rename_i hstate
    rw [if_pos hstate]
    exact length_sent_of_transmit_ok h
  · rename_i hstate
    rw [if_neg hstate]
    exact Tapped.length_sent_of_ok (mapError_eq_ok_iff.1 h)

omit [CardLink L] in
/-- What was sent, if it is no more than one command. -/
theorem OnlySent.exists_option {P : Bytes → Prop} {after : SecureChannel (Tapped L)}
    (h : OnlySent P ch after) (hlen : after.link.sent.length ≤ ch.link.sent.length + 1) :
    ∃ sent : Option Bytes, after.link.sent = ch.link.sent ++ sent.toList ∧
      ∀ bytes ∈ sent, P bytes := by
  obtain ⟨sent, hsent, hall⟩ := h
  rw [hsent, List.length_append] at hlen
  match sent with
  | [] => exact ⟨none, hsent, fun _ hnone => nomatch hnone⟩
  | [bytes] =>
    refine ⟨some bytes, hsent, ?_⟩
    rintro _ ⟨⟩
    exact hall bytes (List.mem_singleton_self _)
  | _ :: _ :: _ =>
    -- two commands are one too many
    simp only [List.length_cons] at hlen
    omega

/-! ### The two steps -/

/-- A step that sends at most one command, and one if it succeeds. -/
structure Sends (x : ChannelM (Tapped L) Unit) (ch : SecureChannel (Tapped L))
    (P : Bytes → Prop) (sent : Option Bytes) : Prop where
  sent_eq : (ExceptT.run x ch).2.link.sent = ch.link.sent ++ sent.toList
  all : ∀ bytes ∈ sent, P bytes
  ne_none : (ExceptT.run x ch).1 = .ok () → sent ≠ none

omit [CardLink L] in
/-- It is enough to count what is sent. -/
theorem exists_sends {x : ChannelM (Tapped L) Unit} {P : Bytes → Prop}
    (honly : OnlySent P ch (ExceptT.run x ch).2)
    (hle : (ExceptT.run x ch).2.link.sent.length ≤ ch.link.sent.length + 1)
    (hone : (ExceptT.run x ch).1 = .ok () →
      (ExceptT.run x ch).2.link.sent.length = ch.link.sent.length + 1) :
    ∃ sent, Sends x ch P sent := by
  obtain ⟨sent, hsent, hall⟩ := honly.exists_option hle
  refine ⟨sent, hsent, hall, ?_⟩
  -- had nothing been sent, the record would have kept its length
  rintro hok rfl
  have hlen := hone hok
  rw [hsent, Option.toList_none, List.append_nil] at hlen
  exact Nat.succ_ne_self _ hlen.symm

/-- GET DATA for the key slots. -/
def AsksForSlots (bytes : Bytes) : Prop :=
  bytes[1]? = some Instruction.getData ∧ bytes[2]? = some 0x00 ∧ bytes[3]? = some 0xE0

/-- The check of a set asks for the key slots, and does nothing else to the card. -/
theorem exists_sends_checkKeys (candidate : KeySet) (ch : SecureChannel (Tapped L)) :
    ∃ asked, Sends (checkKeys candidate) ch AsksForSlots asked := by
  have hlink : (ExceptT.run (checkKeys candidate) ch).2 =
      (ExceptT.run (transmitEither keyInformationCommand) ch).2 := by rw [run_checkKeys]
  refine exists_sends ?_ ?_ fun hok => ?_
  · rw [hlink]
    exact onlySent_transmitEither ch keyInformationCommand
  · rw [hlink]
    exact length_sent_transmitEither_le ch keyInformationCommand
  · -- a check that passes has read an answer
    rw [run_checkKeys] at hok
    obtain ⟨answer, hanswer, -⟩ := bind_eq_ok_iff.1 hok
    rw [hlink]
    exact length_sent_of_transmitEither_ok hanswer

/-- The keys of a set go out in one command, or not at all. -/
theorem exists_sends_putKeys (candidate : KeySet) (replaced : UInt8)
    (ch : SecureChannel (Tapped L)) :
    ∃ put, Sends (putKeys candidate replaced) ch (CarriesKeys ch candidate replaced) put := by
  refine exists_sends (onlySent_putKeys candidate replaced ch) ?_ fun hok => ?_
  · cases hsession : ch.session with
    | none =>
      obtain ⟨e, he⟩ := declines_putKeys hsession candidate replaced
      rw [he]
      exact Nat.le_succ _
    | some session =>
      rw [run_putKeys hsession]
      cases putKeysCommand session candidate replaced with
      | error e => exact Nat.le_succ _
      | ok command => exact length_sent_transmit_le ch command
  · obtain ⟨session, command, answer, hsession, hbuilt, hanswer, -⟩ := putKeys_eq_ok_iff.1 hok
    rw [run_putKeys hsession, hbuilt]
    exact length_sent_of_transmit_ok hanswer

/-! ### Both steps -/

namespace Replacement.Follows

variable {r r' : Replacement} {bytes' : Bytes}

/-- Every single key could be enciphered. -/
theorem exists_envelope (h : r.Follows ch candidate replaced bytes) {k : Key}
    (hk : k ∈ candidate.keys) : ∃ block, k.envelope r.kek = .ok block := by
  have hmem : k ∈ keysInOrder candidate := (perm_keysInOrder candidate).mem_iff.2 hk
  obtain ⟨earlier, block, later, -, hblock⟩ := Command.exists_block_of_putKeys h.built hmem
  exact ⟨block, hblock⟩

/-- There is one command for the keys. -/
theorem command_eq (h : r.Follows ch candidate replaced bytes)
    (h' : r'.Follows ch candidate replaced bytes') : r.command = r'.command := by
  have hsession : r.session = r'.session := Option.some.inj (h.current.symm.trans h'.current)
  have hkey := h.key
  rw [hsession] at hkey
  have hkek : r.kek = r'.kek := Except.ok.inj (hkey.symm.trans h'.key)
  have hbuilt := h.built
  rw [hkek] at hbuilt
  exact Except.ok.inj (hbuilt.symm.trans h'.built)

end Replacement.Follows

/-- The keys were sent, and the card has accepted them. -/
def KeysAccepted (ch : SecureChannel (Tapped L)) (candidate : KeySet) (replaced : UInt8)
    (bytes : Bytes) : Prop :=
  ∃ (r : Replacement) (answer : Response), r.Follows ch candidate replaced bytes ∧
    ((ch.transmit keyInformationCommand).2.transmit r.command).1 = .ok answer ∧
    answer.status = .success

/-- **All or nothing**: what a replacement of keys asks and what it sends. -/
structure AllOrNothing (ch : SecureChannel (Tapped L)) (candidate : KeySet) (replaced : UInt8)
    (asked put : Option Bytes) : Prop where
  /-- At most two commands are sent. -/
  sent_eq : (ExceptT.run (replaceKeys candidate replaced) ch).2.link.sent =
    ch.link.sent ++ asked.toList ++ put.toList
  /-- The first one asks for the key slots. -/
  asks : ∀ bytes ∈ asked, AsksForSlots bytes
  /-- The second one comes after it, and carries keys that were checked. -/
  puts : ∀ bytes ∈ put, asked ≠ none ∧ bytes[1]? = some Instruction.putKey ∧
    candidate.version ≠ 0 ∧ ∃ r : Replacement, r.Follows ch candidate replaced bytes ∧
      ∀ k ∈ candidate.keys, ∃ block, k.envelope r.kek = .ok block
  /-- One key that cannot be enciphered keeps all of them from being sent. -/
  withheld : ∀ session kek, ch.session = some session → session.key .kek = .ok kek →
    (∃ k ∈ candidate.keys, ∃ e, k.envelope kek = .error e) → put = none
  /-- The replacement succeeds exactly if the card has accepted the keys. -/
  succeeds : (ExceptT.run (replaceKeys candidate replaced) ch).1 = .ok () ↔
    ∃ bytes ∈ put, KeysAccepted ch candidate replaced bytes

/-- A replacement that fails before any key is sent. -/
theorem allOrNothing_of_error {asked : Option Bytes} {e : Error} {next : SecureChannel (Tapped L)}
    (hrun : ExceptT.run (replaceKeys candidate replaced) ch = (.error e, next))
    (hsent : next.link.sent = ch.link.sent ++ asked.toList)
    (hasks : ∀ bytes ∈ asked, AsksForSlots bytes) :
    AllOrNothing ch candidate replaced asked none where
  sent_eq := by
    rw [hrun, Option.toList_none, List.append_nil]
    exact hsent
  asks := hasks
  puts := fun _ hnone => nomatch hnone
  withheld := fun _ _ _ _ _ => rfl
  succeeds := by
    rw [hrun]
    constructor
    · intro h
      cases h
    · rintro ⟨bytes, h, -⟩
      cases h

/-- After a check that passed, the answer to the keys decides. -/
theorem putKeys_succeeds_iff {next : SecureChannel (Tapped L)} {put : Option Bytes}
    (hcheck : ExceptT.run (checkKeys candidate) ch = (.ok (), next))
    (hput : Sends (putKeys candidate replaced) next (CarriesKeys next candidate replaced) put) :
    (ExceptT.run (putKeys candidate replaced) next).1 = .ok () ↔
      ∃ bytes ∈ put, KeysAccepted ch candidate replaced bytes := by
  constructor
  · intro hok
    obtain ⟨bytes, hbytes⟩ := Option.ne_none_iff_exists'.1 (hput.ne_none hok)
    obtain ⟨session, command, answer, hsession, hbuilt, hanswer, hstatus⟩ :=
      putKeys_eq_ok_iff.1 hok
    obtain ⟨r, hr, rfl, hcommand⟩ := exists_follows hcheck (hput.all bytes hbytes)
    -- the command that was answered is the one that was checked
    have hsame : r.protecting = session := Option.some.inj (hr.next.symm.trans hsession)
    rw [hsame] at hcommand
    rw [Except.ok.inj (hbuilt.symm.trans hcommand)] at hanswer
    exact ⟨bytes, hbytes, r, answer, hr, hanswer, hstatus⟩
  · -- whatever is known to have come before the keys, their command is the one that was built
    rintro ⟨bytes, hbytes, r, answer, hr, hanswer, hstatus⟩
    obtain ⟨r', hr', rfl, hcommand⟩ := exists_follows hcheck (hput.all bytes hbytes)
    rw [hr.command_eq hr'] at hanswer
    exact putKeys_eq_ok_iff.2 ⟨r'.protecting, r'.command, answer, hr'.next, hcommand, hanswer,
      hstatus⟩

/-- A replacement whose check has passed. -/
theorem allOrNothing_of_check {asked put : Option Bytes} {next : SecureChannel (Tapped L)}
    (hversion : candidate.version ≠ 0)
    (hcheck : ExceptT.run (checkKeys candidate) ch = (.ok (), next))
    (hasked : Sends (checkKeys candidate) ch AsksForSlots asked)
    (hput : Sends (putKeys candidate replaced) next (CarriesKeys next candidate replaced) put) :
    AllOrNothing ch candidate replaced asked put := by
  have hrun : ExceptT.run (replaceKeys candidate replaced) ch =
      ExceptT.run (putKeys candidate replaced) next := by
    rw [run_replaceKeys, if_neg hversion, run_bind, hcheck]
  have hfollows : ∀ bytes ∈ put, ∃ r : Replacement, r.Follows ch candidate replaced bytes := by
    intro bytes hbytes
    obtain ⟨r, hr, -⟩ := exists_follows hcheck (hput.all bytes hbytes)
    exact ⟨r, hr⟩
  refine { sent_eq := ?_, asks := hasked.all, puts := ?_, withheld := ?_, succeeds := ?_ }
  · have hsent := hasked.sent_eq
    rw [hcheck] at hsent
    rw [hrun, hput.sent_eq, hsent]
  · intro bytes hbytes
    obtain ⟨r, hr⟩ := hfollows bytes hbytes
    have hanswered : asked ≠ none := hasked.ne_none (congrArg Prod.fst hcheck)
    exact ⟨hanswered, hr.header.1, hversion, r, hr, fun k hk => hr.exists_envelope hk⟩
  · -- if the command had been sent, the key would have been enciphered with all the others
    rintro session kek hsession hkek ⟨k, hk, e, hrefused⟩
    rw [Option.eq_none_iff_forall_not_mem]
    intro bytes hbytes
    obtain ⟨r, hr⟩ := hfollows bytes hbytes
    obtain ⟨block, hblock⟩ := hr.exists_envelope hk
    have hkey := hr.key
    rw [Option.some.inj (hr.current.symm.trans hsession)] at hkey
    rw [Except.ok.inj (hkey.symm.trans hkek), hrefused] at hblock
    cases hblock
  · rw [hrun]
    exact putKeys_succeeds_iff hcheck hput

/-- **A replacement of keys is all or nothing**, over every channel, for every set of keys and
whatever the card answers. -/
theorem exists_allOrNothing (candidate : KeySet) (replaced : UInt8)
    (ch : SecureChannel (Tapped L)) :
    ∃ asked put, AllOrNothing ch candidate replaced asked put := by
  have hrun := run_replaceKeys candidate replaced ch
  by_cases hversion : candidate.version = 0
  · -- nothing is asked and nothing is sent
    rw [if_pos hversion] at hrun
    exact ⟨none, none, allOrNothing_of_error hrun (List.append_nil _).symm
      fun _ hnone => nomatch hnone⟩
  · rw [if_neg hversion, run_bind] at hrun
    obtain ⟨asked, hasked⟩ := exists_sends_checkKeys candidate ch
    cases hcheck : ExceptT.run (checkKeys candidate) ch with
    | mk outcome next =>
      cases outcome with
      | error e =>
        -- the set was refused, or there was no answer to check it against
        have hsent := hasked.sent_eq
        rw [hcheck] at hrun hsent
        exact ⟨asked, none, allOrNothing_of_error hrun hsent hasked.all⟩
      | ok checked =>
        obtain ⟨put, hput⟩ := exists_sends_putKeys candidate replaced next
        exact ⟨asked, put, allOrNothing_of_check hversion hcheck hasked hput⟩

/-- A card that lists its slots and takes the keys is asked first, and then sent the keys. -/
theorem exists_allOrNothing_recorded : ∃ (ch : SecureChannel (Tapped ScriptedCard))
    (asked put : Bytes),
    AllOrNothing ch (newSet 0x31 .aes rfl) 0x30 (some asked) (some put) ∧
      (ExceptT.run (replaceKeys (newSet 0x31 .aes rfl) 0x30) ch).1 = .ok () := by
  have hgives : CardLink.Gives (slotCard [0xE0, 0x06, 0xC0, 0x04, 0x01, 0x30, 0x88, 0x10])
      [recordedAnswer, .statusOnly .success,
        .success [0xE0, 0x06, 0xC0, 0x04, 0x01, 0x30, 0x88, 0x10], .statusOnly .success] :=
    Tapped.gives (ScriptedCard.gives rfl)
  have hkeys : ∀ k ∈ (newSet 0x31 .aes rfl).keys,
      (k.cipher = .generic ∨ k.cipher = .aes) ∧ k.secret.length = 16 :=
    List.forall_mem_singleton.2 ⟨.inr rfl, rfl⟩
  obtain ⟨ch, session, kek, command, -, hworks, hplain, hrest, hkek, -, hbuilt, hlen⟩ :=
    exists_recorded_putKeys _ hgives hkeys (List.cons_ne_nil _ _) 0x30
  have hcheck : KeySlot.checkReplacement [⟨0x01, 0x30, 0x88, 0x10⟩] (newSet 0x31 .aes rfl) =
      .ok () := rfl
  obtain ⟨next, session', _, hpass, -, hnext, hlevel, hsame, hlast, -⟩ :=
    exists_checkKeys_of_gives hworks hplain hrest
      (KeySlot.parseAll_oneSlot ⟨0x01, 0x30, 0x88, 0x10⟩) hcheck
  obtain ⟨_, _, _, -, -, -, -, hput⟩ := hnext.exists_answer command (by rw [hlevel, hplain]) hlast
    (Session.maxDataLength_congr hlevel ▸ hlen)
  have hok : (ExceptT.run (replaceKeys (newSet 0x31 .aes rfl) 0x30) ch).1 = .ok () := by
    have hversion : (newSet 0x31 .aes rfl).version ≠ 0 := (by decide : (0x31 : UInt8) ≠ 0)
    rw [run_replaceKeys, if_neg hversion, run_bind, hpass]
    exact putKeys_eq_ok_iff.2 ⟨session', command, _, hnext.current,
      putKeysCommand_of_keys_eq hsame hkek hbuilt, congrArg Prod.fst hput, rfl⟩
  -- a success tells that the keys were sent, which they only are after the question
  obtain ⟨asked, put, hall⟩ := exists_allOrNothing (newSet 0x31 .aes rfl) 0x30 ch
  obtain ⟨bytes, rfl, -⟩ := hall.succeeds.1 hok
  obtain ⟨query, rfl⟩ := Option.ne_none_iff_exists'.1 (hall.puts bytes rfl).1
  exact ⟨ch, query, bytes, hall, hok⟩

end ContentManager

end SmartCard
