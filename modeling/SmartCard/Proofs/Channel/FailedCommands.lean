import SmartCard.Proofs.Channel.InitialValues

/-!
# Commands that could not be protected

What a command leaves behind that was refused for its length, and so was never sent. It has been
counted, and it has taken the place of the command whose answer is awaited (`Session.counted`). The
card knows nothing of it, so host and card go on together only where neither matters.

Two sessions are alike if no calls can tell them apart (`Session.Alike`). What two runs have in
common is shown step by step, along a relation that each call keeps (`Session.events_eq_of_step`):

* in SCP01 and SCP02, the awaited command alone has changed (`Session.Reawaits`). It is replaced by
  the next command, so that at most the answers before that can tell;
* in SCP03, the number of commands has changed as well (`Session.Renumbered`). It goes into what is
  enciphered, and into nothing else.

`Session.leaves_of_wrap_error` tells for every protocol and level how far the session is as it was
before. -/

namespace SmartCard

namespace Chaining

/-- Only SCP03 counts. -/
theorem count_of_version_ne {c : Chaining} (h : c.version ≠ .scp03) : c.count = c := by
  cases c with
  | scp01 commandMac => rfl
  | scp02 commandMac last => rfl
  | scp03 last counter => exact absurd rfl h

/-- The links with another number of commands. -/
def renumber (n : UInt32) : Chaining → Chaining
  | scp03 last _ => scp03 last n
  | other => other

end Chaining

namespace Session

variable {s r : Session} {command : Command}

/-! ### Sessions that are alike -/

/-- No calls can tell the sessions apart. -/
def Alike (s r : Session) : Prop := ∀ calls, s.events calls = r.events calls

theorem Alike.wrap_eq (h : Alike s r) (command : Command) :
    (s.wrap command).1 = (r.wrap command).1 := by
  -- a run of one call tells as much as the call does
  have hevents := h [.wrap command]
  simp only [events, call_wrap, List.cons.injEq, SessionEvent.wrap.injEq, true_and, and_true]
    at hevents
  exact hevents

theorem Alike.unwrap_eq (h : Alike s r) (answer : Response) :
    (s.unwrap answer).1 = (r.unwrap answer).1 := by
  have hevents := h [.unwrap answer]
  simp only [events, call_unwrap, List.cons.injEq, SessionEvent.unwrap.injEq, true_and, and_true]
    at hevents
  exact hevents

/-- **What each call keeps, no run can tell.** If calls of some kind have the same outcomes in
related sessions and leave related sessions, so do runs of them. -/
theorem events_eq_of_step {related : Session → Session → Prop} {kind : SessionCall → Prop}
    (step : ∀ s r call, kind call → related s r →
      (s.call call).1 = (r.call call).1 ∧ related (s.call call).2 (r.call call).2)
    (h : related s r) {calls : List SessionCall} (hcalls : ∀ call ∈ calls, kind call) :
    s.events calls = r.events calls := by
  -- on the calls, for every two related sessions
  induction calls generalizing s r with
  | nil => rfl
  | cons call calls ih =>
    rw [List.forall_mem_cons] at hcalls
    obtain ⟨hcall, hcalls⟩ := hcalls
    obtain ⟨hevent, hafter⟩ := step s r call hcall h
    unfold events
    rw [hevent, ih hafter hcalls]

/-! ### The awaited command -/

/-- A command takes the place of the awaited one, whichever that was. -/
theorem wrap_of_pending (hauth : s.authenticated = true) (pending : Option Command)
    (command : Command) : wrap { s with pending } command = s.wrap command := by
  unfold wrap
  change (if s.authenticated = true then _ else _) = _
  rw [if_pos hauth, if_pos hauth]

/-- The links after an answer, by what has come of it. -/
def linksAfter (s : Session) (answer : Response) (outcome : Except Error Response) : Chaining :=
  match splitMac answer.payload, outcome with
  | some (_, mac), .ok _ => if s.level.rMac then s.chaining.reply mac else s.chaining
  | _, _ => s.chaining

/-- **What an answer leaves can be told from its outcome.** -/
theorem unwrap_after (s : Session) (answer : Response) : (s.unwrap answer).2 =
    { s with pending := none, chaining := s.linksAfter answer (s.unwrap answer).1 } := by
  have hcases := s.unwrapped answer
  generalize s.unwrap answer = outcome at hcases
  -- an answer without room for a MAC has none
  have hshort (h : answer.payload.length < 8) (outcome : Except Error Response) :
      s.linksAfter answer outcome = s.chaining := by
    unfold linksAfter
    -- without a MAC to split off, the links are those of before
    rw [splitMac_of_lt h]
  have hfailed (e : Error) : s.linksAfter answer (.error e) = s.chaining := by
    unfold linksAfter
    cases splitMac answer.payload with
    | none => rfl
    | some parts => rfl
  cases hcases with
  | unchecked hlevel =>
    have hlinks : s.linksAfter answer (.ok answer) = s.chaining := by
      unfold linksAfter
      rw [hlevel]
      cases splitMac answer.payload with
      | none => rfl
      | some parts => rfl
    rw [hlinks]
  | short _ hlen _ => rw [hshort hlen]
  | missing _ _ _ => rw [hfailed]
  -- only here does an answer change the links
  | opened hlevel _ hopened =>
    obtain ⟨body, mac, data, hsplit, hmac, -, rfl⟩ := openAnswer_eq_ok_iff.1 hopened
    obtain ⟨-, rfl⟩ := answerMac_eq_ok_iff.1 hmac
    unfold linksAfter
    rw [hsplit, hlevel]
    rfl
  | refused _ _ _ => rw [hfailed]

/-- Sessions that differ in the awaited command alone, where no answer can tell which it is. -/
structure Reawaits (s r : Session) : Prop where
  authenticated_eq : s.authenticated = true
  eq_of : r = { s with pending := r.pending }
  unwrap_eq : ∀ answer, (s.unwrap answer).1 = (r.unwrap answer).1

theorem Reawaits.refl (h : s.authenticated = true) : Reawaits s s := ⟨h, rfl, fun _ => rfl⟩

/-- **One call keeps the sessions together**: after a command, or an answer, they are the same. -/
theorem Reawaits.call (h : Reawaits s r) (call : SessionCall) :
    (s.call call).1 = (r.call call).1 ∧ Reawaits (s.call call).2 (r.call call).2 := by
  have hauth := h.authenticated_eq
  cases call with
  -- a second proof is refused in both, and leaves both as they are
  | authenticate level =>
    have hauth' : r.authenticated = true := by
      rw [h.eq_of]
      exact hauth
    rw [call_authenticate_eq hauth, call_authenticate_eq hauth']
    exact ⟨rfl, h⟩
  -- a command replaces the one that was awaited, so here the sessions meet
  | wrap command =>
    have hwrap : r.wrap command = s.wrap command := by
      rw [h.eq_of]
      exact wrap_of_pending hauth _ command
    rw [call_wrap, call_wrap, hwrap]
    exact ⟨rfl, .refl (authenticated_call hauth (.wrap command))⟩
  -- an answer uses it up, and its outcome tells what it left
  | unwrap answer =>
    have hafter : (r.unwrap answer).2 = (s.unwrap answer).2 := by
      rw [unwrap_after, unwrap_after, ← h.unwrap_eq answer, h.eq_of]
      rfl
    rw [call_unwrap, call_unwrap, hafter, h.unwrap_eq answer]
    exact ⟨rfl, .refl (authenticated_call hauth (.unwrap answer))⟩

theorem Reawaits.alike (h : Reawaits s r) : Alike s r := by
  intro calls
  -- there are no calls that could tell the sessions apart
  have step : ∀ s r call, True → Reawaits s r →
      (s.call call).1 = (r.call call).1 ∧ Reawaits (s.call call).2 (r.call call).2 :=
    fun _ _ call _ hsr => hsr.call call
  exact events_eq_of_step step h fun _ _ => trivial

/-! ### The number of commands -/

/-- Nothing about the call is enciphered. -/
def Unenciphered (level : SecurityLevel) : SessionCall → Prop
  | .authenticate _ => True
  | .wrap command => level.cEnc = false ∨ command.dataBytes = []
  | .unwrap answer => level.rEnc = false ∨ answer.payload.length ≤ 8

/-- Sessions of SCP03 that differ in the number of commands, and in the awaited command. -/
structure Renumbered (level : SecurityLevel) (s r : Session) : Prop where
  equipped : Equipped s
  authenticated_eq : s.authenticated = true
  level_eq : s.level = level
  exists_links : ∃ last n m, s.chaining = .scp03 last n ∧
    r = { s with chaining := .scp03 last m, pending := r.pending }

/-- The MAC of a command does not cover its number, and neither do data that are not enciphered. -/
theorem scp03Data_renumbered {encipher : Bool} (hplain : encipher = false ∨ command.dataBytes = [])
    (last : Block 16) (n m : UInt32) (cla : UInt8) :
    s.scp03Data last n command cla encipher = s.scp03Data last m command cla encipher := by
  -- the body is the data itself, so the number never comes in
  have hbody (n : UInt32) :
      s.aesBody n encipher command.dataBytes = .ok command.dataBytes := by
    have hnone : (encipher && !command.dataBytes.isEmpty) = false := by
      rcases hplain with h | h
      · rw [h]
        rfl
      · rw [h, List.isEmpty_nil, Bool.not_true, Bool.and_false]
    unfold aesBody
    rw [hnone]
    rfl
  unfold scp03Data
  rw [hbody, hbody]

/-- What SCP03 makes of a command with nothing to encipher, whatever its number. -/
theorem protectCommand_renumbered {level : SecurityLevel} {last : Block 16} {n : UInt32}
    (hlinks : s.chaining = .scp03 last n) (hplain : level.cEnc = false ∨ command.dataBytes = [])
    (m : UInt32) (pending : Option Command) :
    protectCommand { s with chaining := .scp03 last m, pending } command level =
      (s.protectCommand command level).map fun (made, links) => (made, links.renumber m) := by
  unfold protectCommand
  -- without command MACs the command is returned, and nothing is computed
  cases level.cMac with
  | false =>
    change _ = Except.ok (command, s.chaining.renumber m)
    rw [hlinks]
    rfl
  | true =>
    unfold protectData
    rw [hlinks]
    have hdata := scp03Data_renumbered (s := s) hplain last m n
      (command.cla ||| CommandClass.secureMessaging)
    change (s.scp03Data last m command _ level.cEnc >>= _) >>= _ =
      ((s.scp03Data last n command _ level.cEnc >>= _) >>= _).map _
    rw [hdata]
    cases s.scp03Data last n command (command.cla ||| CommandClass.secureMessaging) level.cEnc with
    | error e => rfl
    | ok made => rfl

/-- A command with nothing to encipher has one outcome, and keeps the sessions together. -/
theorem Renumbered.wrap {level : SecurityLevel} (h : Renumbered level s r)
    (hplain : level.cEnc = false ∨ command.dataBytes = []) :
    (s.wrap command).1 = (r.wrap command).1 ∧
      Renumbered level (s.wrap command).2 (r.wrap command).2 := by
  obtain ⟨last, n, m, hlinks, heq⟩ := h.exists_links
  have hauth := h.authenticated_eq
  have hequipped := (h.equipped.after hauth [.wrap command]).1
  have hafterAuth := authenticated_call hauth (.wrap command)
  rw [call_wrap] at hafterAuth
  change Equipped (s.wrap command).2 at hequipped
  have hcounted := chaining_counted hlinks command
  -- the other session counts as well, and awaits the same command
  have hother : r.counted command = { s.counted command with chaining := .scp03 last (m + 1) } := by
    rw [heq]
    rfl
  have hauth' : r.authenticated = true := by
    rw [heq]
    exact hauth
  have hmade : (r.counted command).protectCommand command r.level =
      ((s.counted command).protectCommand command s.level).map
        fun (made, links) => (made, links.renumber (m + 1)) := by
    have hlevel : r.level = s.level := by rw [heq]
    rw [hother, hlevel]
    exact protectCommand_renumbered hcounted (h.level_eq ▸ hplain) (m + 1) _
  -- counting comes before the failure, so both numbers have moved on by one
  cases hprotect : (s.counted command).protectCommand command s.level with
  | error e =>
    rw [hprotect] at hmade
    have hwrap := wrap_of_protectCommand_error hauth hprotect
    have hwrap' := wrap_of_protectCommand_error hauth' hmade
    rw [hwrap] at hequipped hafterAuth ⊢
    rw [hwrap', hother]
    exact ⟨rfl, hequipped, hafterAuth, h.level_eq, last, n + 1, m + 1, hcounted, rfl⟩
  | ok made =>
    obtain ⟨wrapped, links⟩ := made
    have hversion : links.version = .scp03 := by
      rw [version_of_protectCommand hprotect, hcounted]
      rfl
    -- protection has left links of SCP03, whose number the other session does not share
    obtain ⟨full, number, rfl⟩ := Chaining.exists_of_version hversion
    rw [hprotect] at hmade
    have hwrap := wrap_of_protectCommand hauth hprotect
    have hwrap' := wrap_of_protectCommand hauth' hmade
    rw [hwrap] at hequipped hafterAuth ⊢
    rw [hwrap', hother]
    exact ⟨rfl, hequipped, hafterAuth, h.level_eq, full, number, m + 1, rfl, rfl⟩

/-! ### Answers, whatever the number of the command -/

/-- The MAC of an answer does not cover the number of the command. -/
theorem Owes.renumber {body : Bytes} {status : StatusWord} {mac : Block 8}
    (h : s.Owes body status mac) {last : Block 16} {n : UInt32}
    (hlinks : s.chaining = .scp03 last n) (m : UInt32) (pending : Option Command) :
    Owes { s with chaining := .scp03 last m, pending } body status mac := by
  cases h with
  | scp02 hother hpending hsecret hmac => cases hlinks.symm.trans hother
  | scp03 hsame hsecret hmac =>
    cases hlinks.symm.trans hsame
    exact .scp03 rfl hsecret hmac

/-- An answer with nothing to decipher gets the same verdict, whatever the number of the command. -/
theorem Verdict.renumber {answer : Response} {outcome : Except Error Response} {after : Session}
    (h : s.Verdict answer (outcome, after)) {last : Block 16} {n : UInt32}
    (hlinks : s.chaining = .scp03 last n)
    (hplain : s.level.rEnc = false ∨ answer.payload.length ≤ 8) (m : UInt32)
    (pending : Option Command) :
    after = { s with pending := none } ∧
      Verdict { s with chaining := .scp03 last m, pending } answer
        (outcome, { s with chaining := .scp03 last m, pending := none }) := by
  -- where there is something to decipher, the answer is longer than its MAC
  have hnothing {body : Bytes} {mac : Block 8} (hpayload : answer.payload = body ++ mac.toList) :
      s.level.rEnc = false ∨ body = [] := by
    refine hplain.imp_right fun hlen => ?_
    rw [hpayload, List.length_append, Block.length_toList] at hlen
    exact List.length_eq_zero_iff.1 (by omega)
  cases h with
  | unchecked hlevel => exact ⟨rfl, .unchecked hlevel⟩
  | refusal hlevel hlen hstatus => exact ⟨rfl, .refusal hlevel hlen hstatus⟩
  | missing hlevel hlen hstatus => exact ⟨rfl, .missing hlevel hlen hstatus⟩
  -- only SCP02 waits for a command before it computes a MAC
  | unasked hlevel hlen hversion hpending =>
    unfold version at hversion
    rw [hlinks] at hversion
    cases hversion
  | forged hlevel hpayload howes hne =>
    exact ⟨rfl, .forged hlevel hpayload (howes.renumber hlinks m pending) hne⟩
  | garbled hlevel hpayload howes hgarbled =>
    have hnone := hnothing hpayload
    cases hgarbled with
    | unaligned hEnc hlen =>
      rcases hnone with hnone | rfl
      · exact absurd (hnone.symm.trans hEnc) Bool.false_ne_true
      · exact absurd rfl hlen
    | unpadded hEnc hbody hpadded hdata =>
      rcases hnone with hnone | rfl
      · exact absurd (hnone.symm.trans hEnc) Bool.false_ne_true
      · exact absurd rfl hbody
  -- in SCP03 an answer leaves the links as they are
  | @authentic body data mac hlevel hpayload howes hreads =>
    have hreply : s.chaining.reply mac = s.chaining := by
      rw [hlinks]
      rfl
    refine ⟨by rw [hreply]; rfl, ?_⟩
    cases hreads with
    | plain hnone =>
      have hauthentic := Verdict.authentic (s := { s with chaining := .scp03 last m, pending })
        hlevel hpayload (howes.renumber hlinks m pending) (.plain hnone)
      exact hauthentic
    | deciphered hEnc hbody hpadded =>
      rcases hnothing hpayload with hnone | rfl
      · exact absurd (hnone.symm.trans hEnc) Bool.false_ne_true
      · exact absurd rfl hbody

theorem Renumbered.unwrap {level : SecurityLevel} (h : Renumbered level s r) {answer : Response}
    (hplain : level.rEnc = false ∨ answer.payload.length ≤ 8) :
    (s.unwrap answer).1 = (r.unwrap answer).1 ∧
      Renumbered level (s.unwrap answer).2 (r.unwrap answer).2 := by
  obtain ⟨last, n, m, hlinks, heq⟩ := h.exists_links
  have hauth := h.authenticated_eq
  -- the other session has the keys that its links ask for, as this one does
  have hother : Equipped r := by
    rw [heq]
    refine h.equipped.relink ?_ s.authenticated r.pending
    rw [hlinks]
    rfl
  obtain ⟨⟨outcome, after⟩, hverdict⟩ := h.equipped.exists_verdict answer
  obtain ⟨rfl, hverdict'⟩ := hverdict.renumber hlinks (h.level_eq ▸ hplain) m r.pending
  rw [← heq] at hverdict'
  have hequipped := (h.equipped.after hauth [.unwrap answer]).1
  change Equipped (s.unwrap answer).2 at hequipped
  rw [hverdict.unwrap_eq h.equipped] at hequipped ⊢
  rw [hverdict'.unwrap_eq hother]
  exact ⟨rfl, hequipped, hauth, h.level_eq, last, n, m, hlinks, rfl⟩

/-- **One call keeps the sessions together**, as long as nothing about it is enciphered. -/
theorem Renumbered.call {level : SecurityLevel} (h : Renumbered level s r) {call : SessionCall}
    (hplain : Unenciphered level call) :
    (s.call call).1 = (r.call call).1 ∧ Renumbered level (s.call call).2 (r.call call).2 := by
  cases call with
  | authenticate asked =>
    have hauth' : r.authenticated = true := by
      obtain ⟨last, n, m, -, heq⟩ := h.exists_links
      rw [heq]
      exact h.authenticated_eq
    rw [call_authenticate_eq h.authenticated_eq, call_authenticate_eq hauth']
    exact ⟨rfl, h⟩
  -- the step is the lemma on commands, or the one on answers
  | wrap command =>
    obtain ⟨houtcome, hafter⟩ := h.wrap hplain
    rw [call_wrap, call_wrap, houtcome]
    exact ⟨rfl, hafter⟩
  | unwrap answer =>
    obtain ⟨houtcome, hafter⟩ := h.unwrap hplain
    rw [call_unwrap, call_unwrap, houtcome]
    exact ⟨rfl, hafter⟩

theorem Renumbered.events_eq {level : SecurityLevel} (h : Renumbered level s r)
    {calls : List SessionCall} (hcalls : ∀ call ∈ calls, Unenciphered level call) :
    s.events calls = r.events calls :=
  events_eq_of_step (fun _ _ _ hcall hsr => hsr.call hcall) h hcalls

/-! ### What a failed command leaves -/

/-- A command that was not protected has been counted, and is awaited. -/
theorem wrap_after_of_error (hauth : s.authenticated = true) {e : Error}
    (hfailed : (s.wrap command).1 = .error e) : (s.wrap command).2 = s.counted command := by
  have hcases := s.wrapped command
  generalize s.wrap command = outcome at hfailed hcases
  -- an authenticated session counts first, and counting is all that a failure leaves
  cases hcases with
  | early hnone => exact absurd (hnone.symm.trans hauth) Bool.false_ne_true
  | sent _ _ => cases hfailed
  | failed _ _ => rfl

/-- Where commands are not counted, the awaited command alone has changed. -/
theorem counted_of_version_ne (hversion : s.version ≠ .scp03) (command : Command) :
    s.counted command = { s with pending := if s.level.rMac then some command else none } := by
  unfold counted
  rw [Chaining.count_of_version_ne hversion]

theorem reawaits_counted (hauth : s.authenticated = true) (hversion : s.version ≠ .scp03)
    (h : ∀ answer, (s.unwrap answer).1 = ((s.counted command).unwrap answer).1) :
    Reawaits s (s.counted command) := by
  refine ⟨hauth, ?_, h⟩
  rw [counted_of_version_ne hversion]

/-- Where commands are not counted, the next one finds nothing changed. -/
theorem events_wrap_counted (hauth : s.authenticated = true) (hversion : s.version ≠ .scp03)
    (command next : Command) (calls : List SessionCall) :
    s.events (.wrap next :: calls) = (s.counted command).events (.wrap next :: calls) := by
  have hwrap : (s.counted command).wrap next = s.wrap next := by
    rw [counted_of_version_ne hversion]
    exact wrap_of_pending hauth _ next
  unfold events
  rw [call_wrap, call_wrap, hwrap]

/-- Where answers carry no MAC, they are all passed on. -/
theorem unwrap_counted_of_not_rMac (hlevel : s.level.rMac = false) (command : Command)
    (answer : Response) : (s.unwrap answer).1 = ((s.counted command).unwrap answer).1 := by
  have hlevel' : (s.counted command).level.rMac = false := hlevel
  rw [unwrap_of_not_rMac hlevel, unwrap_of_not_rMac hlevel']

/-- **In SCP02 an answer can tell** whether a command is awaited. -/
theorem not_alike_counted (h : Equipped s) (hversion : s.version = .scp02)
    (hlevel : s.level.rMac = true) (hpending : s.pending = none) :
    ¬Alike s (s.counted command) := by
  -- an answer of nothing but a MAC is enough to tell the sessions apart
  intro halike
  have hequipped := h.counted command
  have hawaited : (s.counted command).pending = some command := by
    change (if s.level.rMac then some command else none) = _
    rw [hlevel]
    rfl
  -- some MAC is right where the failed command is awaited, and none where no command is
  obtain ⟨mac, howes⟩ := hequipped.exists_owes hlevel (fun _ hnone => by
    rw [hawaited] at hnone
    cases hnone) [] .success
  have haccepted : (s.counted command).Verdict ⟨mac.toList, .success⟩ _ :=
    .authentic hlevel (List.nil_append _).symm howes (.plain (.inr rfl))
  have hrefused : s.Verdict ⟨mac.toList, .success⟩ _ :=
    .unasked hlevel (Nat.le_of_eq (Block.length_toList mac).symm) hversion hpending
  have houtcome := halike.unwrap_eq ⟨mac.toList, .success⟩
  rw [haccepted.unwrap_eq hequipped, hrefused.unwrap_eq h] at houtcome
  cases houtcome

/-- In SCP03 the number of commands has changed, and the awaited command. -/
theorem renumbered_counted (h : Equipped s) (hauth : s.authenticated = true)
    (hversion : s.version = .scp03) (command : Command) :
    Renumbered s.level s (s.counted command) := by
  obtain ⟨last, n, hlinks⟩ := Chaining.exists_of_version hversion
  refine ⟨h, hauth, rfl, last, n, n + 1, hlinks, ?_⟩
  unfold counted
  rw [hlinks]
  rfl

/-- **In SCP03 the next enciphered command can tell**: its chain starts at another value. -/
theorem wrap_ne_of_wrap_error (h : Equipped s) (hauth : s.authenticated = true)
    (hversion : s.version = .scp03) (hlevel : s.level.cEnc = true) {next : Command}
    (hdata : next.dataBytes ≠ []) (hfits : next.dataBytes.length ≤ s.maxDataLength) :
    (s.wrap next).1 ≠ ((s.wrap command).2.wrap next).1 := by
  intro heq
  have hmac : s.level.cMac = true := h.allows.1 hlevel
  obtain ⟨wrapped, hwrap⟩ := (h.wrap_ok_iff hauth hmac).2 hfits
  have hequipped : Equipped (s.wrap command).2 := (h.after hauth [.wrap command]).1
  have hfixed : Fixed s (s.wrap command).2 := fixed_call s (.wrap command)
  -- in a run of both commands, the second one has another value than the first
  have hrun : commandCount [.wrap command, .wrap next] < 2 ^ 32 := show 2 < 2 ^ 32 by decide
  have hvalues := h.neverRepeats_initialValue? hauth hversion hrun
  have hne := hvalues.command_ne_command 0 1 command next rfl rfl (by decide)
  change s.initialValue? (.wrap next) ≠ (s.wrap command).2.initialValue? (.wrap next) at hne
  -- but one protected command has gone through one chain
  obtain ⟨icv, hicv⟩ := hvalues.exists_of_command 0 command rfl
  change s.initialValue? (.wrap next) = some icv at hicv
  have hstarts := (startsAt_wrap_iff h hversion).2 ⟨⟨hlevel, hdata, wrapped, hwrap⟩, hicv⟩
  cases hstarts with
  -- the same bytes under the same key have one start
  | wrap hwrap' hfield hsecret hsealed =>
    have hstarts' := StartsAt.wrap (heq ▸ hwrap') hfield (hfixed.keys_eq ▸ hsecret) hsealed
    have hicv' := ((startsAt_wrap_iff hequipped (hfixed.version_eq.trans hversion)).1 hstarts').2
    exact hne (hicv.trans hicv'.symm)

/-- What a command leaves behind that could not be protected. -/
structure Leaves (s : Session) (command : Command) : Prop where
  /-- It has been counted, and is awaited, and nothing else has changed. -/
  after_eq : (s.wrap command).2 = s.counted command
  /-- In SCP01 that leaves no trace. -/
  scp01 : s.version = .scp01 → Alike s (s.wrap command).2
  /-- In SCP02 it leaves none if answers carry no MAC, -/
  scp02_unprotected : s.version = .scp02 → s.level.rMac = false → Alike s (s.wrap command).2
  /-- and it leaves none once there is another command. -/
  scp02_next : s.version = .scp02 → ∀ next calls,
    s.events (.wrap next :: calls) = (s.wrap command).2.events (.wrap next :: calls)
  /-- Until then, the first answer decides. -/
  scp02_alike_iff : s.version = .scp02 → (Alike s (s.wrap command).2 ↔
    ∀ answer, (s.unwrap answer).1 = ((s.wrap command).2.unwrap answer).1)
  /-- Where no answer is awaited, some answer can tell. -/
  scp02_unawaited : s.version = .scp02 → s.level.rMac = true → s.pending = none →
    ¬Alike s (s.wrap command).2
  /-- In SCP03 it leaves none exactly where commands are not enciphered. -/
  scp03_alike_iff : s.version = .scp03 → (Alike s (s.wrap command).2 ↔ s.level.cEnc = false)
  /-- Where they are, every next command with data can tell, -/
  scp03_next : s.version = .scp03 → s.level.cEnc = true → ∀ next : Command,
    next.dataBytes ≠ [] → next.dataBytes.length ≤ s.maxDataLength →
      (s.wrap next).1 ≠ ((s.wrap command).2.wrap next).1
  /-- and no run without anything to encipher. -/
  scp03_unenciphered : s.version = .scp03 → ∀ calls,
    (∀ call ∈ calls, Unenciphered s.level call) → s.events calls = (s.wrap command).2.events calls

/-- A command with a byte of data. -/
def storeByte : Command := ⟨0x80, 0xE2, 0x80, 0x00, some [0x00], none⟩

/-- **A failed command is not always without a trace.** Whatever calls were made to a session, a
command that it cannot protect leaves the laws of `Leaves`. -/
theorem leaves_of_wrap_error (h : InUse s) {e : Error} (hfailed : (s.wrap command).1 = .error e) :
    Leaves s command := by
  obtain ⟨hequipped, hauth⟩ := h.equipped
  have hafter := wrap_after_of_error hauth hfailed
  -- SCP01 and SCP02 differ only in whether answers can carry a MAC
  have hunprotected (hversion : s.version ≠ .scp03) (hlevel : s.level.rMac = false) :
      Alike s (s.wrap command).2 := by
    rw [hafter]
    exact (reawaits_counted hauth hversion (unwrap_counted_of_not_rMac hlevel command)).alike
  refine ⟨hafter, fun hversion => ?_, fun hversion => ?_, fun hversion next calls => ?_,
    fun hversion => ?_, fun hversion hlevel hpending => ?_, fun hversion => ?_,
    fun hversion hlevel next hdata hfits => ?_, fun hversion calls hcalls => ?_⟩
  · -- no level of SCP01 has answer MACs
    have hallows := hequipped.allows.2.2
    rw [hversion] at hallows
    exact hunprotected (by rw [hversion]; decide) (Bool.not_eq_true _ ▸ hallows.1)
  · exact hunprotected (by rw [hversion]; decide)
  · -- the next command replaces what the failed one has left
    rw [hafter]
    exact events_wrap_counted hauth (by rw [hversion]; decide) command next calls
  · rw [hafter]
    constructor
    · -- likeness covers every run, so also the first answer alone
      exact fun halike => halike.unwrap_eq
    · exact fun hunwrap => (reawaits_counted hauth (by rw [hversion]; decide) hunwrap).alike
  · rw [hafter]
    exact not_alike_counted hequipped hversion hlevel hpending
  · constructor
    · -- one byte of data is enough to tell, where commands are enciphered
      intro halike
      cases hlevel : s.level.cEnc with
      | false => rfl
      | true =>
        have hne : (s.wrap storeByte).1 ≠ ((s.wrap command).2.wrap storeByte).1 :=
          wrap_ne_of_wrap_error hequipped hauth hversion hlevel (List.cons_ne_nil _ _)
            (Nat.le_trans (by decide) s.le_maxDataLength)
        exact absurd (halike.wrap_eq storeByte) hne
    · -- without enciphered commands there are no enciphered answers either
      intro hlevel calls
      rw [hafter]
      refine (renumbered_counted hequipped hauth hversion command).events_eq fun call _ => ?_
      cases call with
      | authenticate level => trivial
      | wrap next => exact .inl hlevel
      | unwrap answer =>
        refine .inl (Bool.eq_false_iff.2 fun hrEnc => ?_)
        exact absurd (hlevel.symm.trans (hequipped.allows.2.1 hrEnc).2) Bool.false_ne_true
  · -- its chain starts at another value, as the number has moved on
    exact wrap_ne_of_wrap_error hequipped hauth hversion hlevel hdata hfits
  · -- no step of the run enciphers anything, so none of them meets the number
    rw [hafter]
    exact (renumbered_counted hequipped hauth hversion command).events_eq hcalls

/-- A command with more data than fits once they are enciphered. -/
def storeOversized : Command := ⟨0x80, 0xE2, 0x80, 0x00, some (List.replicate 240 0x00), none⟩

/-- The recorded session at the full level cannot protect it. -/
theorem exists_refused_recorded : ∃ first proof host fault,
    start Scp03Card.recordedKeys Scp03Card.recordedOffer Scp03Card.recordedChallenge none =
        .ok first ∧
      first.authenticate .full = .ok (proof, host) ∧ InUse host ∧ host.version = .scp03 ∧
      host.level = .full ∧ (host.wrap storeOversized).1 = .error (.protocol fault) := by
  obtain ⟨first, proof, host, hstart, hauth⟩ := Scp03Card.recorded_authenticates
  have hinUse := inUse_of_authenticate hstart hauth
  obtain ⟨hequipped, hauthenticated⟩ := hinUse.equipped
  have hlevel : host.level = .full := level_of_authenticate hauth
  -- the limit of the full level is below 240 bytes
  have hdata : storeOversized.dataBytes.length = 240 := List.length_replicate
  have hroom : host.maxDataLength < storeOversized.dataBytes.length := by
    unfold maxDataLength
    rw [hdata, hlevel]
    decide
  obtain ⟨fault, hfailed⟩ :=
    hequipped.exists_wrap_error hauthenticated (by rw [hlevel]; rfl) hroom
  exact ⟨first, proof, host, fault, hstart, hauth, hinUse, version_of_authenticate hstart hauth,
    hlevel, hfailed⟩

/-- The laws hold of the command that the recorded session cannot protect. -/
theorem leaves_of_wrap_error_recorded : ∃ host e, InUse host ∧
    (host.wrap storeOversized).1 = .error e ∧ Leaves host storeOversized := by
  obtain ⟨first, proof, host, fault, -, -, hinUse, -, -, hfailed⟩ := exists_refused_recorded
  exact ⟨host, .protocol fault, hinUse, hfailed, leaves_of_wrap_error hinUse hfailed⟩

/-- In the recorded session, one byte of data is protected differently after a command that was
refused, and never sent, than without it. -/
theorem events_ne_after_refused : ∃ first proof host fault,
    start Scp03Card.recordedKeys Scp03Card.recordedOffer Scp03Card.recordedChallenge none =
        .ok first ∧
      first.authenticate .full = .ok (proof, host) ∧
      (host.wrap storeOversized).1 = .error (.protocol fault) ∧
      host.events [.wrap storeByte] ≠ (host.wrap storeOversized).2.events [.wrap storeByte] := by
  obtain ⟨first, proof, host, fault, hstart, hauth, hinUse, hversion, hlevel, hfailed⟩ :=
    exists_refused_recorded
  obtain ⟨hequipped, hauthenticated⟩ := hinUse.equipped
  have hne : (host.wrap storeByte).1 ≠ ((host.wrap storeOversized).2.wrap storeByte).1 :=
    wrap_ne_of_wrap_error hequipped hauthenticated hversion (by rw [hlevel]; rfl)
      (List.cons_ne_nil _ _) (Nat.le_trans (by decide) host.le_maxDataLength)
  refine ⟨first, proof, host, fault, hstart, hauth, hfailed, fun heq => hne ?_⟩
  simp only [events, call_wrap, List.cons.injEq, SessionEvent.wrap.injEq, true_and, and_true] at heq
  exact heq

end Session

end SmartCard
