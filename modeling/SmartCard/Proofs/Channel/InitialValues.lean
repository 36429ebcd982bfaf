import SmartCard.Proofs.Channel.AuthenticAnswers

/-!
# Initial values

SCP03 enciphers the data of each command and each answer in a chain that starts at a value of its
own: a block that holds the number of the command, enciphered under the key for data
(`Session.counterBlock?`, `Session.initialValue?`). Nothing but this number keeps two chains under
one key apart.

A command counts whether or not it can be protected (`Session.counter?_wrap`), and an answer does
not count (`Session.counter?_unwrap`). So after any run of calls the counter has moved on by the
number of commands in it (`Session.counter?_after`), and the blocks of a run hold different numbers,
or different marks, as long as the counter has not come round
(`Session.neverRepeats_counterBlock?`).
A cipher maps different blocks to different ones.

`Session.initialValues_after` says so of every run, and ties the values to what can be seen: a
protected command or an opened answer was enciphered in a chain that starts at the value of its
call, and at no other one (`Session.startsAt_iff`). -/

namespace SmartCard

/-- The number of commands in a run, whether or not they could be protected. -/
def commandCount (calls : List SessionCall) : Nat :=
  calls.countP fun
    | .wrap _ => true
    | _ => false

@[simp] theorem commandCount_nil : commandCount [] = 0 := rfl

theorem commandCount_wrap (command : Command) (calls : List SessionCall) :
    commandCount (.wrap command :: calls) = commandCount calls + 1 := by
  unfold commandCount
  rw [List.countP_cons_of_pos rfl]

theorem commandCount_unwrap (answer : Response) (calls : List SessionCall) :
    commandCount (.unwrap answer :: calls) = commandCount calls := rfl

theorem commandCount_authenticate (level : SecurityLevel) (calls : List SessionCall) :
    commandCount (.authenticate level :: calls) = commandCount calls := rfl

/-- A command counts for all that comes after it. -/
theorem commandCount_take_lt {run : List SessionCall} {i j : Nat} {command : Command}
    (h : run[i]? = some (.wrap command)) (hlt : i < j) :
    commandCount (run.take i) < commandCount (run.take j) := by
  have hnext : commandCount (run.take (i + 1)) = commandCount (run.take i) + 1 := by
    unfold commandCount
    rw [List.take_add_one, h, List.countP_append]
    rfl
  -- what comes up to the command is part of what comes before the later call
  have hpart : (run.take (i + 1)).Sublist (run.take j) := by
    have htake : (run.take j).take (i + 1) = run.take (i + 1) := by
      rw [List.take_take, Nat.min_eq_left hlt]
    rw [← htake]
    exact List.take_sublist _ _
  have hle : commandCount (run.take (i + 1)) ≤ commandCount (run.take j) :=
    hpart.countP_le
  omega

theorem commandCount_take_le (run : List SessionCall) (i : Nat) :
    commandCount (run.take i) ≤ commandCount run :=
  (List.take_sublist i run).countP_le

/-- A command counts itself. -/
theorem commandCount_take_lt_of_wrap {run : List SessionCall} {i : Nat} {command : Command}
    (h : run[i]? = some (.wrap command)) : commandCount (run.take i) < commandCount run := by
  obtain ⟨hi, -⟩ := List.getElem?_eq_some_iff.1 h
  have hlt := commandCount_take_lt h hi
  rwa [List.take_length] at hlt

/-- The links of SCP03. -/
theorem Chaining.exists_of_version {c : Chaining} (h : c.version = .scp03) :
    ∃ last counter, c = .scp03 last counter := by
  cases c with
  | scp01 commandMac => cases h
  | scp02 commandMac last => cases h
  | scp03 last counter => exact ⟨last, counter, rfl⟩

namespace Session

variable {s first : Session} {level : SecurityLevel} {proof : Command}

/-! ### The counter -/

/-- **Every command counts**, also one that cannot be protected. -/
theorem counter?_wrap (hauth : s.authenticated = true) (command : Command) :
    (s.wrap command).2.chaining.counter? = s.chaining.counter?.map (· + 1) := by
  have hcases := s.wrapped command
  generalize s.wrap command = outcome at hcases
  cases hcases with
  | early hnone => exact absurd (hnone.symm.trans hauth) Bool.false_ne_true
  | @sent wrapped chaining _ hmade =>
    change chaining.counter? = _
    rw [← Chaining.counter?_count]
    cases hmac : s.level.cMac with
    -- the command went out: the links are those of before, counted once
    | true =>
      obtain ⟨mac, -, hseals⟩ := seals_of_protectCommand hmac hmade
      exact hseals.counter_eq
    | false =>
      rw [protectCommand_of_not_cMac hmac] at hmade
      cases hmade
      rfl
  | failed _ _ => exact s.chaining.counter?_count

/-- Answers do not count. -/
theorem counter?_unwrap (s : Session) (answer : Response) :
    (s.unwrap answer).2.chaining.counter? = s.chaining.counter? := by
  have hcases := s.unwrapped answer
  generalize s.unwrap answer = outcome at hcases
  cases hcases with
  | unchecked _ => rfl
  | short _ _ _ => rfl
  | missing _ _ _ => rfl
  | opened _ _ hopened =>
    obtain ⟨body, mac, data, -, hmac, -, -⟩ := openAnswer_eq_ok_iff.1 hopened
    exact (replies_of_answerMac hmac).counter_eq
  | refused _ _ _ => rfl

/-- **The counter counts the commands of a run**, as far as 32 bits go. -/
theorem counter?_after (hauth : s.authenticated = true) (calls : List SessionCall) :
    (s.after calls).chaining.counter? =
      s.chaining.counter?.map (· + UInt32.ofNat (commandCount calls)) := by
  -- on the calls, for every session that has counted some commands already
  induction calls generalizing s with
  | nil =>
    rw [commandCount_nil, after_nil]
    change _ = s.chaining.counter?.map (· + 0)
    simp
  | cons call calls ih =>
    rw [after_cons, ih (authenticated_call hauth call)]
    cases call with
    -- a second proof is refused, and a refused call leaves the counter
    | authenticate level =>
      obtain ⟨e, hrefused⟩ := call_authenticate_of_authenticated hauth level
      rw [hrefused, commandCount_authenticate]
    | wrap command =>
      rw [call_wrap, counter?_wrap hauth, commandCount_wrap, Option.map_map, UInt32.ofNat_add]
      congr 1
      funext n
      change n + 1 + UInt32.ofNat (commandCount calls) = n + (UInt32.ofNat (commandCount calls) + 1)
      rw [UInt32.add_assoc, UInt32.add_comm 1]
    | unwrap answer =>
      rw [call_unwrap, counter?_unwrap, commandCount_unwrap]

/-! ### Counter blocks -/

theorem commandCounterBlock_inj {n m : UInt32} (h : commandCounterBlock n = commandCounterBlock m) :
    n = m :=
  BigEndian.append_ofUInt32_inj h

theorem answerCounterBlock_inj {n m : UInt32} (h : answerCounterBlock n = answerCounterBlock m) :
    n = m :=
  BigEndian.append_ofUInt32_inj h

/-- The first byte tells the direction. -/
theorem commandCounterBlock_ne (n m : UInt32) : commandCounterBlock n ≠ answerCounterBlock m := by
  intro h
  have hfirst := congrArg (fun block => block.toList.head?) h
  change some (0x00 : UInt8) = some 0x80 at hfirst
  exact absurd (Option.some.inj hfirst) (by decide)

theorem commandCounterBlock_zero : commandCounterBlock 0 = Block.zero 16 := rfl

theorem answerCounterBlock_ne_zero (n : UInt32) : answerCounterBlock n ≠ Block.zero 16 := by
  rw [← commandCounterBlock_zero]
  exact (commandCounterBlock_ne 0 n).symm

/-- The block that SCP03 enciphers into the initial value of a call. -/
def counterBlock? (s : Session) : SessionCall → Option (Block 16)
  | .wrap _ => s.chaining.counter?.map fun n => commandCounterBlock (n + 1)
  | .unwrap _ => s.chaining.counter?.map answerCounterBlock
  | .authenticate _ => none

/-- The value that the chain of a call starts at. -/
def initialValue? (s : Session) (call : SessionCall) : Option (Block 16) := do
  let secret ← s.keys.secret? .enc
  let block ← s.counterBlock? call
  (Aes.encryptBlock secret block).toOption

/-! ### Runs -/

/-- What a call of a run has, in the session that the calls before it have left. -/
def valueAt {α : Type} (value : Session → SessionCall → Option α) (s : Session)
    (run : List SessionCall) (i : Nat) : Option α :=
  run[i]?.bind (value (s.after (run.take i)))

/-- Every command and every answer of a run has a value, and no value is used twice. Answers to one
command share theirs. -/
structure NeverRepeats {α : Type} (run : List SessionCall) (value : Nat → Option α) : Prop where
  exists_of_command : ∀ i command, run[i]? = some (.wrap command) → ∃ v, value i = some v
  exists_of_answer : ∀ i answer, run[i]? = some (.unwrap answer) → ∃ v, value i = some v
  command_ne_command : ∀ i j c d, run[i]? = some (.wrap c) → run[j]? = some (.wrap d) → i ≠ j →
    value i ≠ value j
  answer_ne_answer : ∀ i j a b, run[i]? = some (.unwrap a) → run[j]? = some (.unwrap b) →
    commandCount (run.take i) ≠ commandCount (run.take j) → value i ≠ value j
  command_ne_answer : ∀ i j c a, run[i]? = some (.wrap c) → run[j]? = some (.unwrap a) →
    value i ≠ value j

/-- What never repeats does not repeat under a cipher. -/
theorem NeverRepeats.map {α β : Type} {run : List SessionCall} {value : Nat → Option α}
    (h : NeverRepeats run value) {f : α → β} (hf : ∀ v w, f v = f w → v = w) :
    NeverRepeats run fun i => (value i).map f := by
  -- every clause is about `value i ≠ value j`, so one step carries all of them
  have hmap {i j : Nat} (hne : value i ≠ value j) : (value i).map f ≠ (value j).map f :=
    fun heq => hne (Option.map_injective hf heq)
  refine ⟨fun i command hi => ?_, fun i answer hi => ?_,
    fun i j c d hi hj hij => hmap (h.command_ne_command i j c d hi hj hij),
    fun i j a b hi hj hij => hmap (h.answer_ne_answer i j a b hi hj hij),
    fun i j c a hi hj => hmap (h.command_ne_answer i j c a hi hj)⟩
  · obtain ⟨v, hv⟩ := h.exists_of_command i command hi
    exact ⟨f v, by rw [hv, Option.map_some]⟩
  · obtain ⟨v, hv⟩ := h.exists_of_answer i answer hi
    exact ⟨f v, by rw [hv, Option.map_some]⟩

/-- Numbers below the limit are told apart by 32 bits, wherever the counter was before. -/
theorem ofNat_inj_of_lt (n : UInt32) {a b : Nat} (ha : a < 2 ^ 32) (hb : b < 2 ^ 32)
    (h : n + UInt32.ofNat a = n + UInt32.ofNat b) : a = b := by
  have hnat := congrArg UInt32.toNat ((UInt32.add_right_inj n).1 h)
  rwa [UInt32.toNat_ofNat', UInt32.toNat_ofNat', Nat.mod_eq_of_lt ha, Nat.mod_eq_of_lt hb] at hnat

section Blocks

variable {n : UInt32} {run : List SessionCall}

theorem counterBlock?_command (hauth : s.authenticated = true)
    (hcounter : s.chaining.counter? = some n) {i : Nat} {command : Command}
    (hi : run[i]? = some (.wrap command)) : s.valueAt counterBlock? run i =
      some (commandCounterBlock (n + UInt32.ofNat (commandCount (run.take i) + 1))) := by
  unfold valueAt
  rw [hi, Option.bind_some]
  unfold counterBlock?
  -- the command counts itself, so its block has the number after those before it
  rw [counter?_after hauth, hcounter, UInt32.ofNat_add, ← UInt32.add_assoc]
  rfl

theorem counterBlock?_answer (hauth : s.authenticated = true)
    (hcounter : s.chaining.counter? = some n) {i : Nat} {answer : Response}
    (hi : run[i]? = some (.unwrap answer)) : s.valueAt counterBlock? run i =
      some (answerCounterBlock (n + UInt32.ofNat (commandCount (run.take i)))) := by
  unfold valueAt
  rw [hi, Option.bind_some]
  unfold counterBlock?
  rw [counter?_after hauth, hcounter]
  rfl

/-- **Counter blocks never repeat** until the counter has come round. -/
theorem neverRepeats_counterBlock? (hauth : s.authenticated = true)
    (hcounter : s.chaining.counter? = some n) (hlt : commandCount run < 2 ^ 32) :
    NeverRepeats run (s.valueAt counterBlock? run) := by
  refine ⟨fun i command hi => ⟨_, counterBlock?_command hauth hcounter hi⟩,
    fun i answer hi => ⟨_, counterBlock?_answer hauth hcounter hi⟩, ?_, ?_, ?_⟩
  · intro i j c d hi hj hij heq
    rw [counterBlock?_command hauth hcounter hi, counterBlock?_command hauth hcounter hj] at heq
    have hboundI := commandCount_take_lt_of_wrap hi
    have hboundJ := commandCount_take_lt_of_wrap hj
    have hsame := ofNat_inj_of_lt n (by omega) (by omega)
      (commandCounterBlock_inj (Option.some.inj heq))
    -- the earlier one of the two commands counts for the later one
    rcases Nat.lt_or_gt_of_ne hij with hbefore | hafter
    · have hless := commandCount_take_lt hi hbefore
      omega
    · have hless := commandCount_take_lt hj hafter
      omega
  · intro i j a b hi hj hij heq
    rw [counterBlock?_answer hauth hcounter hi, counterBlock?_answer hauth hcounter hj] at heq
    -- the answers belong to different commands, and no command has a number of another one's
    have hboundI := commandCount_take_le run i
    have hboundJ := commandCount_take_le run j
    exact hij (ofNat_inj_of_lt n (by omega) (by omega)
      (answerCounterBlock_inj (Option.some.inj heq)))
  · intro i j c a hi hj heq
    -- the numbers may agree, the first byte does not
    rw [counterBlock?_command hauth hcounter hi, counterBlock?_answer hauth hcounter hj] at heq
    exact commandCounterBlock_ne _ _ (Option.some.inj heq)

end Blocks

theorem initialValue?_of_encryptBlock {call : SessionCall} {secret : Bytes} {block icv : Block 16}
    (hsecret : s.keys.secret? .enc = some secret) (hblock : s.counterBlock? call = some block)
    (hicv : Aes.encryptBlock secret block = .ok icv) : s.initialValue? call = some icv := by
  unfold initialValue?
  rw [hsecret, hblock]
  exact toOption_of_eq_ok hicv

/-- All initial values of a session come from one cipher. -/
theorem Equipped.exists_initialValue?_eq (h : Equipped s) (hversion : s.version = .scp03) :
    ∃ c : BlockCipher 16, c.Lawful ∧ ∀ run i,
      s.valueAt initialValue? run i = (s.valueAt counterBlock? run i).map c.encrypt := by
  obtain ⟨last, counter, hlinks⟩ := Chaining.exists_of_version hversion
  obtain ⟨secret, hsecret, hlen⟩ := exists_secret (h.enc.serves hlinks)
  -- one cipher for the whole run, since the key never changes
  obtain ⟨c, hlawful, hencrypt⟩ := Aes.exists_encryptBlock_eq hlen
  refine ⟨c, hlawful, fun run i => ?_⟩
  unfold valueAt
  cases run[i]? with
  | none => rfl
  | some call =>
    -- the key for data is the same in every session of the run
    have hkeys : (s.after (run.take i)).keys.secret? .enc = some secret := by
      rw [(fixed_after s (run.take i)).keys_eq]
      exact secret?_of_secret hsecret
    rw [Option.bind_some, Option.bind_some]
    cases hblock : (s.after (run.take i)).counterBlock? call with
    | none =>
      unfold initialValue?
      rw [hkeys, hblock]
      rfl
    | some block => exact initialValue?_of_encryptBlock hkeys hblock (hencrypt block)

/-- **Initial values never repeat**, since a cipher keeps different blocks apart. -/
theorem Equipped.neverRepeats_initialValue? (h : Equipped s) (hauth : s.authenticated = true)
    (hversion : s.version = .scp03) {run : List SessionCall} (hlt : commandCount run < 2 ^ 32) :
    NeverRepeats run (s.valueAt initialValue? run) := by
  obtain ⟨last, counter, hlinks⟩ := Chaining.exists_of_version hversion
  obtain ⟨c, hlawful, hvalue⟩ := h.exists_initialValue?_eq hversion
  have hblocks := neverRepeats_counterBlock? hauth (congrArg Chaining.counter? hlinks) hlt
  have hvalues := hblocks.map fun _ _ heq => hlawful.encrypt_inj heq
  rwa [← funext (hvalue run)] at hvalues

/-! ### What can be seen of initial values -/

/-- What a call has returned is the outcome of a chain that starts at this value. -/
inductive StartsAt (s : Session) : SessionCall → Block 16 → Prop
  | wrap {command wrapped : Command} {sealed secret : Bytes} {mac : Block 8} {icv : Block 16}
    (hwrap : (s.wrap command).1 = .ok wrapped) (hfield : wrapped.dataBytes = sealed ++ mac.toList)
    (hsecret : s.keys.secret? .enc = some secret)
    (hsealed : Aes.cbcEncrypt secret icv (Padding.pad 16 command.dataBytes) = .ok sealed) :
    StartsAt s (.wrap command) icv
  | unwrap {answer : Response} {body data secret : Bytes} {mac : Block 8} {icv : Block 16}
    {zeros : Nat} (hunwrap : (s.unwrap answer).1 = .ok ⟨data, answer.status⟩)
    (hpayload : answer.payload = body ++ mac.toList)
    (hsecret : s.keys.secret? .enc = some secret)
    (hopened : Aes.cbcDecrypt secret icv body = .ok (data ++ 0x80 :: List.replicate zeros 0)) :
    StartsAt s (.unwrap answer) icv

/-- The call succeeds, and has data that the level wants enciphered. -/
def Enciphers (s : Session) : SessionCall → Prop
  | .wrap command => s.level.cEnc = true ∧ command.dataBytes ≠ [] ∧
    ∃ wrapped, (s.wrap command).1 = .ok wrapped
  | .unwrap answer => s.level.rEnc = true ∧ 8 < answer.payload.length ∧
    ∃ plain, (s.unwrap answer).1 = .ok plain
  | .authenticate _ => False

/-- In SCP03 the data field of a protected command is made under the number of the command. -/
theorem exists_body_of_wrap {last : Block 16} {counter : UInt32}
    (hlinks : s.chaining = .scp03 last counter) (hmac : s.level.cMac = true)
    {command wrapped : Command} (hwrap : (s.wrap command).1 = .ok wrapped) :
    ∃ (body : Bytes) (mac : Block 8), wrapped.dataBytes = body ++ mac.toList ∧
      (s.counted command).aesBody (counter + 1) s.level.cEnc command.dataBytes = .ok body := by
  have hcounted := chaining_counted hlinks command
  obtain ⟨links, hmade, -⟩ := wrap_eq_ok (Prod.ext hwrap rfl)
  obtain ⟨field, hfield, rfl⟩ := (protectCommand_eq_ok_iff hmac).1 hmade
  rcases protectData_eq_ok hfield with
    ⟨p, commandMac, answerMac, mac, hother, -, -⟩ | ⟨last', counter', full, hscp03, -, hdata⟩
  · -- the links are those of SCP03, so the data were not made on a path of the others
    rw [hcounted] at hother
    cases p with
    | scp01 => cases hother
    | scp02 => cases hother
  · cases hcounted.symm.trans hscp03
    obtain ⟨body, secret, hbody, -, -, -, rfl⟩ := scp03Data_eq_ok_iff.1 hdata
    exact ⟨body, full.leftHalf, Command.dataBytes_withData _ _, hbody⟩

/-- Enciphered data are longer than the plain ones, so that one is never taken for the other. -/
theorem length_lt_of_cbcEncrypt {secret sealed data : Bytes} {icv : Block 16}
    (h : Aes.cbcEncrypt secret icv (Padding.pad 16 data) = .ok sealed) :
    data.length < sealed.length := by
  rw [Aes.length_of_cbcEncrypt h, Padding.length_pad (by decide)]
  omega

theorem length_lt_of_cbcDecrypt {secret body data : Bytes} {icv : Block 16} {zeros : Nat}
    (h : Aes.cbcDecrypt secret icv body = .ok (data ++ 0x80 :: List.replicate zeros 0)) :
    data.length < body.length := by
  rw [← Aes.length_of_cbcDecrypt h, List.length_append, List.length_cons]
  omega

/-- What is returned without a MAC is the command itself. -/
theorem eq_of_wrap_of_not_cMac (hmac : s.level.cMac = false) {command wrapped : Command}
    (hwrap : (s.wrap command).1 = .ok wrapped) : wrapped = command := by
  obtain ⟨links, hmade, -⟩ := wrap_eq_ok (Prod.ext hwrap rfl)
  rw [protectCommand_of_not_cMac hmac] at hmade
  cases hmade
  rfl

/-- **A protected command was enciphered from its initial value on**, and from no other one. -/
theorem startsAt_wrap_iff (h : Equipped s) (hversion : s.version = .scp03) {command : Command}
    {icv : Block 16} : s.StartsAt (.wrap command) icv ↔
      s.Enciphers (.wrap command) ∧ s.initialValue? (.wrap command) = some icv := by
  obtain ⟨last, counter, hlinks⟩ := Chaining.exists_of_version hversion
  have hblock : s.counterBlock? (.wrap command) = some (commandCounterBlock (counter + 1)) := by
    unfold counterBlock?
    rw [hlinks]
    rfl
  constructor
  · rintro (⟨hwrap, hfield, hsecret, hsealed⟩ | _)
    rename_i wrapped sealed secret mac
    have hlonger := length_lt_of_cbcEncrypt hsealed
    cases hmac : s.level.cMac with
    | false =>
      -- the command was returned as it is, and has no room for itself enciphered
      rw [eq_of_wrap_of_not_cMac hmac hwrap] at hfield
      rw [hfield, List.length_append] at hlonger
      omega
    | true =>
      obtain ⟨body, mac', hfield', hbody⟩ := exists_body_of_wrap hlinks hmac hwrap
      obtain ⟨rfl, -⟩ := append_mac_inj (hfield.symm.trans hfield')
      rcases aesBody_eq_ok hbody with ⟨-, rfl⟩ | ⟨hc, secret', icv', hsecret', hicv', hsealed'⟩
      · exact absurd hlonger (Nat.lt_irrefl _)
      · have hsecret' : s.keys.secret? .enc = some secret' := secret?_of_secret (s := s) hsecret'
        cases hsecret.symm.trans hsecret'
        -- one field comes from one start
        have hicv : icv' = icv := Aes.iv_eq_of_cbcDecrypt (Aes.cbcDecrypt_of_cbcEncrypt hsealed')
          (Aes.cbcDecrypt_of_cbcEncrypt hsealed) (Padding.pad_ne_nil 16 _)
        rw [Bool.and_eq_true, Bool.not_eq_true', List.isEmpty_eq_false_iff] at hc
        exact ⟨⟨hc.1, hc.2, wrapped, hwrap⟩,
          hicv ▸ initialValue?_of_encryptBlock hsecret hblock hicv'⟩
  · rintro ⟨⟨hlevel, hdata, wrapped, hwrap⟩, hicv⟩
    -- a level that enciphers commands also takes their MACs
    have hmac : s.level.cMac = true := h.allows.1 hlevel
    obtain ⟨body, mac, hfield, hbody⟩ := exists_body_of_wrap hlinks hmac hwrap
    rcases aesBody_eq_ok hbody with ⟨hplain, -⟩ | ⟨-, secret, icv', hsecret, hicv', hsealed⟩
    · rw [hlevel, List.isEmpty_eq_false_iff.2 hdata] at hplain
      cases hplain
    · have hsecret : s.keys.secret? .enc = some secret := secret?_of_secret (s := s) hsecret
      cases hicv.symm.trans (initialValue?_of_encryptBlock hsecret hblock hicv')
      exact .wrap hwrap hfield hsecret hsealed

/-- **An opened answer was enciphered from its initial value on**, and from no other one. -/
theorem startsAt_unwrap_iff (h : Equipped s) (hversion : s.version = .scp03) {answer : Response}
    {icv : Block 16} : s.StartsAt (.unwrap answer) icv ↔
      s.Enciphers (.unwrap answer) ∧ s.initialValue? (.unwrap answer) = some icv := by
  obtain ⟨last, counter, hlinks⟩ := Chaining.exists_of_version hversion
  have hblock : s.counterBlock? (.unwrap answer) = some (answerCounterBlock counter) := by
    unfold counterBlock?
    rw [hlinks]
    rfl
  -- from here on the answer is one verdict, and each verdict says what `unwrap` returns
  obtain ⟨outcome, hverdict⟩ := h.exists_verdict answer
  have houtcome := hverdict.unwrap_eq h
  constructor
  · rintro (_ | ⟨hunwrap, hpayload, hsecret, hopened⟩)
    rename_i body data secret mac zeros
    have hshorter := length_lt_of_cbcDecrypt hopened
    have hroom : 8 ≤ answer.payload.length := exists_append_mac_iff.1 ⟨body, mac, hpayload⟩
    rw [houtcome] at hunwrap
    cases hverdict with
    | unchecked hlevel =>
      -- the answer was passed on as it is, with its MAC
      have hdata : answer.payload = data := congrArg Response.payload (Except.ok.inj hunwrap)
      rw [← hdata, hpayload, List.length_append] at hshorter
      omega
    | refusal hlevel hlen hstatus => exact absurd hroom (Nat.not_le.2 hlen)
    | missing hlevel hlen hstatus => cases hunwrap
    | unasked hlevel hlen hscp02 hpending => cases hunwrap
    | forged hlevel hpayload' howes hne => cases hunwrap
    | garbled hlevel hpayload' howes hgarbled => cases hunwrap
    | @authentic body' data' mac' hlevel hpayload' howes hreads =>
      cases hunwrap
      obtain ⟨rfl, -⟩ := append_mac_inj (hpayload.symm.trans hpayload')
      cases hreads with
      | plain hplain => exact absurd hshorter (Nat.lt_irrefl _)
      | @deciphered _ zeros' hlevel hbody hpadded =>
        obtain ⟨last', counter', secret', icv', hlinks', hsecret', hicv', hopened'⟩ := hpadded
        cases hlinks.symm.trans hlinks'
        cases hsecret.symm.trans hsecret'
        -- both paddings fill the same blocks
        have hzeros : zeros = zeros' := by
          have hlen := (Aes.length_of_cbcDecrypt hopened).trans
            (Aes.length_of_cbcDecrypt hopened').symm
          simp only [List.length_append, List.length_cons, List.length_replicate] at hlen
          omega
        subst hzeros
        have hicv : icv' = icv := Aes.iv_eq_of_cbcDecrypt hopened' hopened
          (List.append_ne_nil_of_right_ne_nil _ (List.cons_ne_nil _ _))
        have hlong : 8 < answer.payload.length := by
          rw [hpayload, List.length_append, Block.length_toList]
          have := List.length_pos_iff.2 hbody
          omega
        exact ⟨⟨hlevel, hlong, _, by rw [houtcome]⟩,
          hicv ▸ initialValue?_of_encryptBlock hsecret hblock hicv'⟩
  · rintro ⟨⟨hlevel, hlong, plain, hunwrap⟩, hicv⟩
    rw [houtcome] at hunwrap
    cases hverdict with
    -- a level that enciphers answers checks them first
    | unchecked hnone => exact absurd (hnone.symm.trans (h.allows.2.1 hlevel).1) Bool.false_ne_true
    | refusal _ hlen hstatus => omega
    | missing _ hlen hstatus => cases hunwrap
    | unasked _ hlen hscp02 hpending => cases hunwrap
    | forged _ hpayload howes hne => cases hunwrap
    | garbled _ hpayload howes hgarbled => cases hunwrap
    | @authentic body data mac _ hpayload howes hreads =>
      cases hunwrap
      cases hreads with
      | plain hplain =>
        rcases hplain with hnone | rfl
        · -- with no body, the payload is a MAC of eight bytes and nothing else
          exact absurd (hnone.symm.trans hlevel) Bool.false_ne_true
        · rw [hpayload, List.nil_append, Block.length_toList] at hlong
          exact absurd hlong (Nat.lt_irrefl 8)
      | deciphered _ hbody hpadded =>
        obtain ⟨last', counter', secret, icv', hlinks', hsecret, hicv', hopened⟩ := hpadded
        cases hlinks.symm.trans hlinks'
        cases hicv.symm.trans (initialValue?_of_encryptBlock hsecret hblock hicv')
        exact .unwrap (by rw [houtcome]) hpayload hsecret hopened

/-- **What was enciphered started at the value of its call**, and at no other one. -/
theorem startsAt_iff (h : Equipped s) (hversion : s.version = .scp03) {call : SessionCall}
    {icv : Block 16} :
    s.StartsAt call icv ↔ s.Enciphers call ∧ s.initialValue? call = some icv := by
  cases call with
  | authenticate level =>
    constructor
    · intro hstarts
      cases hstarts
    · rintro ⟨hnone, -⟩
      exact hnone.elim
  | wrap command => exact startsAt_wrap_iff h hversion
  | unwrap answer => exact startsAt_unwrap_iff h hversion

/-! ### All runs -/

/-- The initial values of a run of calls. -/
structure InitialValues (s : Session) (run : List SessionCall) : Prop where
  /-- No counter block is enciphered for two commands, for a command and an answer, or for answers
  to two commands. -/
  blocks : NeverRepeats run (s.valueAt counterBlock? run)
  /-- The same holds of what they are enciphered to. -/
  values : NeverRepeats run (s.valueAt initialValue? run)
  /-- What went through a chain went through the one that starts at the value of its call. -/
  startsAt_iff : ∀ i call icv, run[i]? = some call →
    ((s.after (run.take i)).StartsAt call icv ↔
      (s.after (run.take i)).Enciphers call ∧ s.valueAt initialValue? run i = some icv)

/-- After the host's proof, the counter is the number of commands. -/
theorem counter?_after_authenticate {staticKeys : KeySet} {offer : CardOffer} {challenge : Block 8}
    {parameters : Option UInt8} (hstart : start staticKeys offer challenge parameters = .ok first)
    {calls : List SessionCall} {host : Session}
    (hauth : (first.after calls).authenticate level = .ok (proof, host))
    (hversion : offer.version = .scp03) (later : List SessionCall) :
    (host.after later).version = .scp03 ∧
      (host.after later).chaining.counter? = some (UInt32.ofNat (commandCount later)) := by
  have hunlinked := unlinked_of_start hstart
  rw [hunlinked.after_eq_of_authenticate hauth] at hauth
  have hhost : host.version = .scp03 := (version_of_authenticate hstart hauth).trans hversion
  have hcounter := (hunlinked.linked hauth {}).counter_eq hhost
  -- the proof has set the counter to zero, and the calls since are all that counts
  refine ⟨(fixed_after host later).version_eq.trans hhost, ?_⟩
  rw [counter?_after (authenticated_of_authenticate hauth), hcounter, Option.map_some]
  change some (UInt32.ofNat 0 + _) = _
  rw [← UInt32.ofNat_add, Nat.zero_add]

/-- **Initial values never repeat.** Whatever calls were made before, a run with fewer than `2 ^ 32`
commands uses no counter block twice, and so no initial value twice. The block of zeros is not among
them, as long as the counter has not come round since the host's proof. -/
theorem initialValues_after {staticKeys : KeySet} {offer : CardOffer} {challenge : Block 8}
    {parameters : Option UInt8} (hstart : start staticKeys offer challenge parameters = .ok first)
    {calls : List SessionCall} {host : Session}
    (hauth : (first.after calls).authenticate level = .ok (proof, host))
    (hversion : offer.version = .scp03) (earlier run : List SessionCall)
    (hlt : commandCount run < 2 ^ 32) :
    InitialValues (host.after earlier) run ∧
      (commandCount earlier + commandCount run < 2 ^ 32 →
        ∀ i, (host.after earlier).valueAt counterBlock? run i ≠ some (Block.zero 16)) := by
  obtain ⟨hequipped, hafter⟩ := equipped_after hstart hauth earlier
  obtain ⟨hscp03, hcounter⟩ := counter?_after_authenticate hstart hauth hversion earlier
  generalize host.after earlier = s at hequipped hafter hscp03 hcounter
  refine ⟨⟨neverRepeats_counterBlock? hafter hcounter hlt,
    hequipped.neverRepeats_initialValue? hafter hscp03 hlt, fun i call icv hi => ?_⟩,
    fun hall i hzero => ?_⟩
  · -- the session of the call is again equipped, whatever came before it
    have hrun := (hequipped.after hafter (run.take i)).1
    have hversion := (fixed_after s (run.take i)).version_eq.trans hscp03
    rw [startsAt_iff hrun hversion]
    unfold valueAt
    rw [hi, Option.bind_some]
  · -- zero is the number of no command, and the first byte of an answer's block is not zero
    cases hi : run[i]? with
    | none =>
      unfold valueAt at hzero
      rw [hi] at hzero
      cases hzero
    | some call =>
      cases call with
      | authenticate level =>
        unfold valueAt at hzero
        rw [hi] at hzero
        cases hzero
      | wrap command =>
        rw [counterBlock?_command hafter hcounter hi, ← commandCounterBlock_zero] at hzero
        have hbound := commandCount_take_lt_of_wrap hi
        -- the number of the command is not zero, and 32 bits hold it
        have hnumber := commandCounterBlock_inj (Option.some.inj hzero)
        rw [← UInt32.ofNat_add] at hnumber
        have hnat := congrArg UInt32.toNat hnumber
        rw [UInt32.toNat_ofNat', Nat.mod_eq_of_lt (by omega)] at hnat
        change _ = 0 at hnat
        omega
      | unwrap answer =>
        rw [counterBlock?_answer hafter hcounter hi] at hzero
        exact answerCounterBlock_ne_zero _ (Option.some.inj hzero)

/-- In the recorded session, a command that is too long to be protected takes a value like the
others. -/
theorem initialValues_after_recorded : ∃ first proof host,
    start Scp03Card.recordedKeys Scp03Card.recordedOffer Scp03Card.recordedChallenge none =
        .ok first ∧
      (first.after []).authenticate .full = .ok (proof, host) ∧
      let run : List SessionCall :=
        [.wrap (Command.getData 0x9F7F),
          .wrap ⟨0x80, 0xE2, 0x80, 0x00, some (List.replicate 240 0), none⟩,
          .unwrap (.success []), .wrap (Command.getData 0x9F7F)]
      commandCount [] + commandCount run < 2 ^ 32 ∧ InitialValues (host.after []) run ∧
        host.valueAt initialValue? run 0 ≠ host.valueAt initialValue? run 3 := by
  obtain ⟨first, proof, host, hstart, hauth⟩ := Scp03Card.recorded_authenticates
  have hafter : (first.after []).authenticate .full = .ok (proof, host) := hauth
  refine ⟨first, proof, host, hstart, hafter, by decide, ?_⟩
  have hvalues := (initialValues_after hstart hafter rfl []
    [.wrap (Command.getData 0x9F7F),
      .wrap ⟨0x80, 0xE2, 0x80, 0x00, some (List.replicate 240 0), none⟩, .unwrap (.success []),
      .wrap (Command.getData 0x9F7F)] (by decide)).1
  exact ⟨hvalues, hvalues.values.command_ne_command 0 3 _ _ rfl rfl (by decide)⟩

end Session

end SmartCard
