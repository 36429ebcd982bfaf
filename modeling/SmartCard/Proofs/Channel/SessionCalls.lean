import SmartCard.Proofs.Channel.Conversation
import SmartCard.Proofs.Channel.Protection

/-!
# Calls to a session

A session is used by three calls (`SessionCall`), in any order, whether they succeed or not. The
caller sees each call with its outcome (`SessionEvent`), and `Session.after` is the session that the
calls leave.

Each call has one lemma that says all it can do: `authenticate_eq_ok_iff` for the host's proof,
`Session.wrapped` for commands and `Session.unwrapped` for answers. What protection does to the
links is said apart from these, for all protocols at once:

* `Session.seals_of_protectCommand` — a command that was given a MAC replaces the MAC of the last
  command, and no other link;
* `Session.replies_of_answerMac` — an answer replaces the MAC of the last answer, where answers are
  linked, and no other link.

An answer whose MAC is the one that the host computes is verified (`Session.Verifies`). Where
answers carry a MAC, nothing else is passed on but a refusal that has no room for one
(`Session.verifies_or_of_unwrap`). -/

namespace SmartCard

/-! ### The links one by one -/

namespace Chaining

/-- The MAC of the last command, as the command carried it. -/
def commandMac? : Chaining → Option (Block 8)
  | scp01 commandMac => commandMac
  | scp02 commandMac _ => commandMac
  | scp03 commandMac _ => some commandMac.leftHalf

/-- The MAC of the last answer, where answers are linked. -/
def answerMac? : Chaining → Option (Block 8)
  | scp02 _ answerMac => some answerMac
  | _ => none

/-- The number of commands, where they are counted. -/
def counter? : Chaining → Option UInt32
  | scp03 _ counter => some counter
  | _ => none

variable (c : Chaining)

@[simp] theorem commandMac?_count : c.count.commandMac? = c.commandMac? := by cases c <;> rfl

@[simp] theorem answerMac?_count : c.count.answerMac? = c.answerMac? := by cases c <;> rfl

@[simp] theorem counter?_count : c.count.counter? = c.counter?.map (· + 1) := by cases c <;> rfl

@[simp] theorem commandMac?_linkAnswers : c.linkAnswers.commandMac? = c.commandMac? := by
  rcases c with _ | ⟨_ | _, _⟩ | _ <;> rfl

@[simp] theorem counter?_linkAnswers : c.linkAnswers.counter? = c.counter? := by
  rcases c with _ | ⟨_ | _, _⟩ | _ <;> rfl

/-- Once there is a command, its MAC is where the MACs of answers go on from. -/
theorem answerMac?_linkAnswers {c : Chaining} {mac : Block 8} (h : c.commandMac? = some mac) :
    c.linkAnswers.answerMac? = c.answerMac?.map fun _ => mac := by
  cases c with
  -- there are no links of answers to set, so both sides are `none`
  | scp01 commandMac => rfl
  | scp02 commandMac answerMac =>
    change commandMac = some mac at h
    rw [h]
    rfl
  | scp03 commandMac counter => rfl

/-- SCP02 links answers. -/
theorem exists_answerMac {c : Chaining} (h : c.version = .scp02) :
    ∃ mac, c.answerMac? = some mac := by
  cases c with
  | scp01 commandMac => cases h
  | scp02 commandMac answerMac => exact ⟨answerMac, rfl⟩
  | scp03 commandMac counter => cases h

/-- A command with this MAC leads from the links before it to the links after it. -/
structure Seals (before : Chaining) (mac : Block 8) (after : Chaining) : Prop where
  version_eq : after.version = before.version
  commandMac_eq : after.commandMac? = some mac
  answerMac_eq : after.answerMac? = before.answerMac?
  counter_eq : after.counter? = before.counter?

/-- An answer with this MAC leads from the links before it to the links after it. -/
structure Replies (before : Chaining) (mac : Block 8) (after : Chaining) : Prop where
  version_eq : after.version = before.version
  commandMac_eq : after.commandMac? = before.commandMac?
  answerMac_eq : after.answerMac? = before.answerMac?.map fun _ => mac
  counter_eq : after.counter? = before.counter?

end Chaining

theorem splitMac_eq_some_iff {field body : Bytes} {mac : Block 8} :
    splitMac field = some (body, mac) ↔ field = body ++ mac.toList := by
  constructor
  · -- the last eight bytes are the MAC, and the rest is what `take` leaves
    intro h
    obtain ⟨mac', hmac, h⟩ := Option.map_eq_some_iff.1 h
    cases h
    rw [← Block.ofList?_eq_some_iff.1 hmac]
    exact (List.take_append_drop (field.length - 8) field).symm
  · rintro rfl
    exact splitMac_append body mac

/-- A byte string without room for a MAC ends in none. -/
theorem splitMac_of_lt {field : Bytes} (h : field.length < 8) : splitMac field = none := by
  have hdrop : Block.ofList? 8 (field.drop (field.length - 8)) = none := by
    rw [Block.ofList?_eq_none_iff, List.length_drop]
    omega
  rw [splitMac, hdrop]
  rfl

theorem append_mac_inj {body body' : Bytes} {mac mac' : Block 8}
    (h : body ++ mac.toList = body' ++ mac'.toList) : body = body' ∧ mac = mac' := by
  have hsplit := congrArg splitMac h
  rw [splitMac_append, splitMac_append, Option.some.injEq, Prod.mk.injEq] at hsplit
  exact hsplit

/-- A byte string ends in a MAC exactly when it has room for one. -/
theorem exists_append_mac_iff {field : Bytes} :
    (∃ (body : Bytes) (mac : Block 8), field = body ++ mac.toList) ↔ 8 ≤ field.length := by
  constructor
  · rintro ⟨body, mac, rfl⟩
    rw [List.length_append, Block.length_toList]
    exact Nat.le_add_left 8 _
  · intro h
    have hlen : (field.drop (field.length - 8)).length = 8 := by
      rw [List.length_drop]
      omega
    exact ⟨field.take (field.length - 8), ⟨_, hlen⟩, (List.take_append_drop _ _).symm⟩

/-- The MAC at the end of the data field. -/
def Command.mac? (c : Command) : Option (Block 8) := (splitMac c.dataBytes).map Prod.snd

namespace Session

variable {s : Session} {command : Command} {answer : Response}

/-! ### Protection and the links -/

theorem seals_of_protectData {cla : UInt8} {encipher : Bool} {field : Bytes} {chaining : Chaining}
    (h : s.protectData command cla encipher = .ok (field, chaining)) :
    ∃ body mac, body ++ mac.toList = field ∧ s.chaining.Seals mac chaining := by
  -- every protocol puts the MAC at the end of the field
  rcases protectData_eq_ok h with
    ⟨p, commandMac, answerMac, mac, hbefore, rfl, hdata⟩ |
    ⟨last, counter, full, hbefore, rfl, hdata⟩
  · obtain ⟨-, secret, icv, body, -, -, -, -, -, rfl⟩ := desData_eq_ok_iff.1 hdata
    refine ⟨body, mac, rfl, ?_⟩
    rw [hbefore]
    cases p with
    | scp01 => exact ⟨rfl, rfl, rfl, rfl⟩
    | scp02 => exact ⟨rfl, rfl, rfl, rfl⟩
  · obtain ⟨body, secret, -, -, -, -, rfl⟩ := scp03Data_eq_ok_iff.1 hdata
    refine ⟨body, full.leftHalf, rfl, ?_⟩
    rw [hbefore]
    exact ⟨rfl, rfl, rfl, rfl⟩

/-- **A command that was given a MAC** carries it at the end of its data field, and leaves it as the
MAC of the last command. -/
theorem seals_of_protectCommand {level : SecurityLevel} (hmac : level.cMac = true)
    {wrapped : Command} {chaining : Chaining}
    (h : s.protectCommand command level = .ok (wrapped, chaining)) :
    ∃ mac, wrapped.mac? = some mac ∧ s.chaining.Seals mac chaining := by
  obtain ⟨field, hfield, rfl⟩ := (protectCommand_eq_ok_iff hmac).1 h
  obtain ⟨body, mac, rfl, hseals⟩ := seals_of_protectData hfield
  refine ⟨mac, ?_, hseals⟩
  rw [Command.mac?, Command.dataBytes_withData, splitMac_append]
  rfl

/-- Protection keeps to the protocol of the session. -/
theorem version_of_protectCommand {level : SecurityLevel} {wrapped : Command}
    {chaining : Chaining}
    (h : s.protectCommand command level = .ok (wrapped, chaining)) :
    chaining.version = s.chaining.version := by
  cases hmac : level.cMac with
  | false =>
    rw [protectCommand_of_not_cMac hmac] at h
    cases h
    rfl
  | true =>
    obtain ⟨mac, -, hseals⟩ := seals_of_protectCommand hmac h
    exact hseals.version_eq

/-- The MAC of an answer, by the links that go into it: the MAC of the last answer and the awaited
command in SCP02, and the full MAC of the last command in SCP03. -/
theorem answerMac_eq_ok {awaited : Option Command} {body : Bytes} {status : StatusWord}
    {mac : Block 8} {chaining : Chaining}
    (h : s.answerMac awaited body status = .ok (mac, chaining)) :
    (∃ commandMac last c secret, s.chaining = .scp02 commandMac last ∧ awaited = some c ∧
      s.secret .rmac = .ok secret ∧
      Mac.retail secret last (scp02AnswerInput c body status) = .ok mac ∧
      chaining = .scp02 commandMac mac) ∨
    ∃ last counter secret full, s.chaining = .scp03 last counter ∧ s.secret .rmac = .ok secret ∧
      Cmac.aes secret (last.toList ++ body ++ status.toBytes) = .ok full ∧ full.leftHalf = mac ∧
      chaining = .scp03 last counter := by
  unfold answerMac at h
  cases hchaining : s.chaining with
  | scp01 commandMac =>
    -- the protocol has no MAC for answers, so nothing is returned
    rw [hchaining] at h
    cases h
  | scp02 commandMac last =>
    rw [hchaining] at h
    cases awaited with
    -- an answer that nothing was asked for has no MAC to compare with
    | none => cases h
    | some c =>
      obtain ⟨secret, hsecret, h⟩ := bind_eq_ok_iff.1 h
      obtain ⟨mac', hmac, h⟩ := bind_eq_ok_iff.1 h
      cases h
      exact .inl ⟨commandMac, last, c, secret, rfl, rfl, hsecret, mapError_eq_ok_iff.1 hmac, rfl⟩
  | scp03 last counter =>
    rw [hchaining] at h
    obtain ⟨secret, hsecret, h⟩ := bind_eq_ok_iff.1 h
    obtain ⟨full, hfull, h⟩ := bind_eq_ok_iff.1 h
    cases h
    exact .inr ⟨last, counter, secret, full, rfl, hsecret, mapError_eq_ok_iff.1 hfull, rfl, rfl⟩

/-- **An answer leaves its MAC** as the MAC of the last answer. -/
theorem replies_of_answerMac {awaited : Option Command} {body : Bytes} {status : StatusWord}
    {mac : Block 8} {chaining : Chaining}
    (h : s.answerMac awaited body status = .ok (mac, chaining)) :
    s.chaining.Replies mac chaining := by
  rcases answerMac_eq_ok h with
    ⟨_, _, _, _, hbefore, -, -, -, rfl⟩ | ⟨_, _, _, _, hbefore, -, -, -, rfl⟩
  · rw [hbefore]
    exact ⟨rfl, rfl, rfl, rfl⟩
  · rw [hbefore]
    exact ⟨rfl, rfl, rfl, rfl⟩

/-! ### Verified answers -/

/-- The answer ends in the MAC that the host computes for it. -/
def Verifies (s : Session) (answer : Response) : Prop :=
  s.level.rMac = true ∧ ∃ body mac chaining, splitMac answer.payload = some (body, mac) ∧
    s.answerMac s.pending body answer.status = .ok (mac, chaining)

/-- **An answer is opened** exactly when it ends in the MAC that the host computes for the rest of
it, and the rest can be read. -/
theorem openAnswer_eq_ok_iff {awaited : Option Command} {plain : Response} {chaining : Chaining} :
    s.openAnswer awaited answer = .ok (plain, chaining) ↔ ∃ body mac data,
      splitMac answer.payload = some (body, mac) ∧
        s.answerMac awaited body answer.status = .ok (mac, chaining) ∧
        s.answerData body = .ok data ∧ ⟨data, answer.status⟩ = plain := by
  constructor
  · intro h
    -- the MAC is compared before the data is read, so a success has passed both
    obtain ⟨⟨mac, chaining'⟩, hmac, h⟩ := bind_eq_ok_iff.1 h
    obtain ⟨hagree, h⟩ := guard_eq_ok_iff.1 h
    obtain ⟨data, hdata, h⟩ := bind_eq_ok_iff.1 h
    cases h
    rw [Bool.not_eq_true', Bool.not_eq_false, Mac.agree_iff] at hagree
    -- what agrees with a MAC has the length of one, however short the answer is
    refine ⟨_, mac, data, splitMac_eq_some_iff.2 ?_, hmac, hdata, rfl⟩
    rw [hagree]
    exact (List.take_append_drop _ _).symm
  · rintro ⟨body, mac, data, hsplit, hmac, hdata, rfl⟩
    have hanswer : answer = ⟨body ++ mac.toList, answer.status⟩ := by
      rw [← splitMac_eq_some_iff.1 hsplit]
    rw [hanswer]
    exact openAnswer_of_answerMac hmac hdata

/-! ### What each call can do -/

/-- What comes of a command. -/
inductive Wrapped (s : Session) (command : Command) : Except Error Command × Session → Prop
  /-- Without the host's proof, no command is taken. -/
  | early (hauth : s.authenticated = false) :
    Wrapped s command (.error (.link .noSecureChannel), s)
  | sent {wrapped : Command} {chaining : Chaining} (hauth : s.authenticated = true)
    (hmade : (s.counted command).protectCommand command s.level = .ok (wrapped, chaining)) :
    Wrapped s command (.ok wrapped, { s.counted command with chaining })
  /-- The command has been counted, and replaces the one that waited for its answer. -/
  | failed {e : Error} (hauth : s.authenticated = true)
    (hfailed : (s.counted command).protectCommand command s.level = .error e) :
    Wrapped s command (.error e, s.counted command)

theorem wrapped (s : Session) (command : Command) : Wrapped s command (s.wrap command) := by
  cases hauth : s.authenticated with
  | false =>
    -- the refusal comes first, and the session is the one there was
    have hwrap : s.wrap command = (.error (.link .noSecureChannel), s) := by
      unfold wrap
      rw [hauth]
      rfl
    rw [hwrap]
    exact .early hauth
  | true =>
    cases hmade : (s.counted command).protectCommand command s.level with
    | ok made =>
      obtain ⟨wrapped, chaining⟩ := made
      rw [wrap_of_protectCommand hauth hmade]
      exact .sent hauth hmade
    | error e =>
      rw [wrap_of_protectCommand_error hauth hmade]
      exact .failed hauth hmade

/-- A command that was protected is awaited, and has left its links. -/
theorem wrap_eq_ok {command wrapped : Command} {waiting : Session}
    (h : s.wrap command = (.ok wrapped, waiting)) : ∃ chaining,
      (s.counted command).protectCommand command s.level = .ok (wrapped, chaining) ∧
        { s.counted command with chaining } = waiting := by
  have hcases := s.wrapped command
  rw [h] at hcases
  -- of the three outcomes only one is a success
  cases hcases with
  | sent _ hmade => exact ⟨_, hmade, rfl⟩

/-- An answer without room for a MAC is passed on, unless the command has completed. -/
theorem unwrap_of_short (hlevel : s.level.rMac = true) (hlen : answer.payload.length < 8) :
    s.unwrap answer = (if answer.status.isCompleted then
      .error (.security (.answerWithoutMac answer.status)) else .ok answer,
      { s with pending := none }) := by
  unfold unwrap
  rw [hlevel]
  change (if answer.payload.length < 8 then _ else _) = _
  rw [if_pos hlen]
  cases answer.status.isCompleted with
  | true => rfl
  | false => rfl

/-- What comes of an answer. -/
inductive Unwrapped (s : Session) (answer : Response) : Except Error Response × Session → Prop
  /-- Answers carry no MAC. -/
  | unchecked (hlevel : s.level.rMac = false) :
    Unwrapped s answer (.ok answer, { s with pending := none })
  /-- A refusal without a MAC. -/
  | short (hlevel : s.level.rMac = true) (hlen : answer.payload.length < 8)
    (hstatus : answer.status.isCompleted = false) :
    Unwrapped s answer (.ok answer, { s with pending := none })
  /-- A success that has no room for its MAC. -/
  | missing (hlevel : s.level.rMac = true) (hlen : answer.payload.length < 8)
    (hstatus : answer.status.isCompleted = true) :
    Unwrapped s answer (.error (.security (.answerWithoutMac answer.status)),
      { s with pending := none })
  | opened {plain : Response} {chaining : Chaining} (hlevel : s.level.rMac = true)
    (hlen : 8 ≤ answer.payload.length)
    (hopened : s.openAnswer s.pending answer = .ok (plain, chaining)) :
    Unwrapped s answer (.ok plain, { s with pending := none, chaining })
  | refused {e : Error} (hlevel : s.level.rMac = true) (hlen : 8 ≤ answer.payload.length)
    (hrefused : s.openAnswer s.pending answer = .error e) :
    Unwrapped s answer (.error e, { s with pending := none })

theorem unwrapped (s : Session) (answer : Response) : Unwrapped s answer (s.unwrap answer) := by
  cases hlevel : s.level.rMac with
  | false =>
    rw [unwrap_of_not_rMac hlevel]
    exact .unchecked hlevel
  | true =>
    -- whether there is room for a MAC is asked before the status is
    by_cases hlen : answer.payload.length < 8
    · cases hstatus : answer.status.isCompleted with
      | true =>
        rw [unwrap_of_short hlevel hlen, hstatus]
        exact .missing hlevel hlen hstatus
      | false =>
        rw [unwrap_of_short hlevel hlen, hstatus]
        exact .short hlevel hlen hstatus
    · rw [Nat.not_lt] at hlen
      cases hopened : s.openAnswer s.pending answer with
      | ok made =>
        obtain ⟨plain, chaining⟩ := made
        rw [unwrap_of_openAnswer hlevel hlen hopened]
        exact .opened hlevel hlen hopened
      | error e =>
        rw [unwrap_of_openAnswer_error hlevel hlen hopened]
        exact .refused hlevel hlen hopened

/-- A command changes the links and the awaited command, whatever becomes of it. -/
theorem exists_wrap (s : Session) (command : Command) : ∃ chaining pending,
    chaining.version = s.chaining.version ∧
      (s.wrap command).2 = { s with chaining, pending } := by
  have hcases := s.wrapped command
  generalize s.wrap command = outcome at hcases
  cases hcases with
  | early _ => exact ⟨s.chaining, s.pending, rfl, rfl⟩
  | sent _ hmade =>
    -- neither counting nor sealing leaves the protocol
    exact ⟨_, _, (version_of_protectCommand hmade).trans s.chaining.version_count, rfl⟩
  | failed _ _ => exact ⟨_, _, s.chaining.version_count, rfl⟩

/-- An answer changes the links, and uses up the awaited command, whatever becomes of it. -/
theorem exists_unwrap (s : Session) (answer : Response) : ∃ chaining,
    chaining.version = s.chaining.version ∧
      (s.unwrap answer).2 = { s with chaining, pending := none } := by
  have hcases := s.unwrapped answer
  generalize s.unwrap answer = outcome at hcases
  cases hcases with
  | unchecked _ => exact ⟨s.chaining, rfl, rfl⟩
  | short _ _ _ => exact ⟨s.chaining, rfl, rfl⟩
  | missing _ _ _ => exact ⟨s.chaining, rfl, rfl⟩
  | opened _ _ hopened =>
    obtain ⟨body, mac, data, -, hmac, -, -⟩ := openAnswer_eq_ok_iff.1 hopened
    exact ⟨_, (replies_of_answerMac hmac).version_eq, rfl⟩
  | refused _ _ _ => exact ⟨s.chaining, rfl, rfl⟩

/-- An answer is passed on with its status. -/
theorem status_of_unwrap {plain : Response} (h : (s.unwrap answer).1 = .ok plain) :
    plain.status = answer.status := by
  have hcases := s.unwrapped answer
  generalize s.unwrap answer = outcome at h hcases
  cases hcases with
  -- without MACs nothing is opened, and the answer is passed on as it is
  | unchecked _ => cases h; rfl
  | short _ _ _ => cases h; rfl
  | missing _ _ _ => cases h
  | opened _ _ hopened =>
    cases h
    obtain ⟨body, mac, data, -, -, -, rfl⟩ := openAnswer_eq_ok_iff.1 hopened
    rfl
  | refused _ _ _ => cases h

/-- **What is passed on was verified**, or it is a refusal that has no room for a MAC. -/
theorem verifies_or_of_unwrap {plain : Response} (hlevel : s.level.rMac = true)
    (h : (s.unwrap answer).1 = .ok plain) : s.Verifies answer ∨
      plain = answer ∧ answer.payload.length < 8 ∧ answer.status.isCompleted = false := by
  have hcases := s.unwrapped answer
  generalize s.unwrap answer = outcome at h hcases
  cases hcases with
  -- the level asks for MACs, so the unchecked path is closed
  | unchecked hnone => exact absurd (hnone.symm.trans hlevel) Bool.false_ne_true
  | short _ hshort hstatus =>
    cases h
    exact .inr ⟨rfl, hshort, hstatus⟩
  | missing _ _ _ => cases h
  | opened _ _ hopened =>
    obtain ⟨body, mac, data, hsplit, hmac, -, -⟩ := openAnswer_eq_ok_iff.1 hopened
    exact .inl ⟨hlevel, body, mac, _, hsplit, hmac⟩
  | refused _ _ _ => cases h

end Session

/-! ### Runs of calls -/

/-- A call to a session. -/
inductive SessionCall
  | authenticate (level : SecurityLevel)
  | wrap (command : Command)
  | unwrap (answer : Response)

/-- A call with its outcome, which is all that the caller sees of it. -/
inductive SessionEvent
  | authenticate (level : SecurityLevel) (outcome : Except Error Command)
  | wrap (command : Command) (outcome : Except Error Command)
  | unwrap (answer : Response) (outcome : Except Error Response)

namespace Session

variable {s : Session}

/-- One call, and the session after it. An authentication that fails makes no session, so that the
caller goes on with the one there is. -/
def call (s : Session) : SessionCall → SessionEvent × Session
  | .authenticate level =>
    match s.authenticate level with
    | .ok (command, after) => (.authenticate level (.ok command), after)
    | .error e => (.authenticate level (.error e), s)
  | .wrap command => (.wrap command (s.wrap command).1, (s.wrap command).2)
  | .unwrap answer => (.unwrap answer (s.unwrap answer).1, (s.unwrap answer).2)

theorem call_of_authenticate {level : SecurityLevel} {proof : Command} {after : Session}
    (h : s.authenticate level = .ok (proof, after)) :
    s.call (.authenticate level) = (.authenticate level (.ok proof), after) := by
  simp only [call, h]

theorem call_of_authenticate_error {level : SecurityLevel} {e : Error}
    (h : s.authenticate level = .error e) :
    s.call (.authenticate level) = (.authenticate level (.error e), s) := by
  simp only [call, h]

/-- Once it was made, the host's proof cannot be made again. -/
theorem call_authenticate_eq (h : s.authenticated = true) (level : SecurityLevel) :
    s.call (.authenticate level) =
      (.authenticate level (.error (.security .alreadyAuthenticated)), s) := by
  refine call_of_authenticate_error ?_
  unfold authenticate
  rw [h]
  rfl

theorem call_authenticate_of_authenticated (h : s.authenticated = true) (level : SecurityLevel) :
    ∃ e, s.call (.authenticate level) = (.authenticate level (.error e), s) :=
  ⟨_, call_authenticate_eq h level⟩

theorem call_wrap (s : Session) (command : Command) :
    s.call (.wrap command) = (.wrap command (s.wrap command).1, (s.wrap command).2) := rfl

theorem call_unwrap (s : Session) (answer : Response) :
    s.call (.unwrap answer) = (.unwrap answer (s.unwrap answer).1, (s.unwrap answer).2) := rfl

/-- The session after a run of calls. -/
def after (s : Session) (calls : List SessionCall) : Session :=
  calls.foldl (fun s call => (s.call call).2) s

/-- The calls of a run with their outcomes. -/
def events : Session → List SessionCall → List SessionEvent
  | _, [] => []
  | s, call :: calls => (s.call call).1 :: (s.call call).2.events calls

@[simp] theorem after_nil (s : Session) : s.after [] = s := rfl

@[simp] theorem after_cons (s : Session) (call : SessionCall) (calls : List SessionCall) :
    s.after (call :: calls) = (s.call call).2.after calls := rfl

/-- **What every call keeps, every run keeps.** -/
theorem keeps_after {P : Session → Prop} (step : ∀ s call, P s → P (s.call call).2) (h : P s)
    (calls : List SessionCall) : P (s.after calls) := by
  -- on the calls, for every session that has the property before them
  induction calls generalizing s with
  | nil => exact h
  | cons call calls ih =>
    rw [after_cons]
    exact ih (step s call h)

/-- The host's proof stands for good. -/
theorem authenticated_call (h : s.authenticated = true) (call : SessionCall) :
    (s.call call).2.authenticated = true := by
  cases call with
  | authenticate level =>
    -- a second proof is refused, and a refused call is no step
    obtain ⟨e, hrefused⟩ := call_authenticate_of_authenticated h level
    rw [hrefused]
    exact h
  | wrap command =>
    obtain ⟨chaining, pending, -, hafter⟩ := exists_wrap s command
    rw [call_wrap, hafter]
    exact h
  | unwrap answer =>
    obtain ⟨chaining, -, hafter⟩ := exists_unwrap s answer
    rw [call_unwrap, hafter]
    exact h

/-! ### Before the host's proof -/

/-- A session before the host's proof: the level is that of the proof, nothing is linked, and no
command is awaited. -/
structure Unlinked (version : ScpVersion) (s : Session) : Prop where
  authenticated_eq : s.authenticated = false
  level_eq : s.level = .mac
  chaining_eq : s.chaining = .start version
  pending_eq : s.pending = none

theorem Unlinked.version_eq {version : ScpVersion} (h : Unlinked version s) :
    s.version = version := by
  rw [Session.version, h.chaining_eq, Chaining.version_start]

theorem Unlinked.wrap_eq {version : ScpVersion} (h : Unlinked version s) (command : Command) :
    s.wrap command = (.error (.link .noSecureChannel), s) := by
  unfold wrap
  rw [h.authenticated_eq]
  rfl

theorem Unlinked.unwrap_eq {version : ScpVersion} (h : Unlinked version s) (answer : Response) :
    s.unwrap answer = (.ok answer, s) := by
  rw [unwrap_of_not_rMac (by rw [h.level_eq]; rfl), ← h.pending_eq]

theorem unlinked_of_start {staticKeys : KeySet} {offer : CardOffer} {challenge : Block 8}
    {parameters : Option UInt8} (h : start staticKeys offer challenge parameters = .ok s) :
    Unlinked offer.version s := by
  obtain ⟨-, keys, -, -, rfl⟩ := start_eq_ok_iff.1 h
  exact ⟨rfl, rfl, rfl, rfl⟩

/-- **Before the host's proof, no call changes the session.** -/
theorem Unlinked.after_eq {version : ScpVersion} (h : Unlinked version s)
    (calls : List SessionCall) : s.after calls = s ∨ (s.after calls).authenticated = true := by
  refine keeps_after (P := fun r => r = s ∨ r.authenticated = true) ?_ (.inl rfl) calls
  -- the session is the first one still, or the proof has been made, which stands
  rintro r call (rfl | hauth)
  · cases call with
    | authenticate level =>
      cases hauth : r.authenticate level with
      | error e =>
        rw [call_of_authenticate_error hauth]
        exact .inl rfl
      | ok made =>
        obtain ⟨proof, after⟩ := made
        -- the proof is the only call that gets through, and it leaves an authenticated session
        obtain ⟨-, -, cryptogram, chaining, -, -, rfl⟩ := authenticate_eq_ok_iff.1 hauth
        rw [call_of_authenticate hauth]
        exact .inr rfl
    | wrap command =>
      rw [call_wrap, h.wrap_eq]
      exact .inl rfl
    | unwrap answer =>
      rw [call_unwrap, h.unwrap_eq]
      exact .inl rfl
  · exact .inr (authenticated_call hauth call)

/-- The calls before the host's proof have left no trace. -/
theorem Unlinked.after_eq_of_authenticate {version : ScpVersion} (h : Unlinked version s)
    {calls : List SessionCall} {level : SecurityLevel} {proof : Command} {host : Session}
    (hauth : (s.after calls).authenticate level = .ok (proof, host)) : s.after calls = s := by
  obtain ⟨hnone, -⟩ := authenticate_eq_ok_iff.1 hauth
  -- the proof was made just now, so it had not been made before
  rcases h.after_eq calls with heq | hsome
  · exact heq
  · exact absurd (hnone.symm.trans hsome) Bool.false_ne_true

end Session

end SmartCard
