import SmartCard.Apdu.Script
import SmartCard.Management.RegistryReader
import SmartCard.Proofs.Channel.Established
import SmartCard.Proofs.Channel.Transcript

/-!
# Where registry data come from

Registry data are the payloads of the pages that the card has sent, one after the other
(`ContentManager.Pages`, `ContentManager.registryPages_eq_ok_iff`). Over a channel with answer MACs
every page that announces another one is verified, since its status counts as completed. The page
that ends the listing need not be: a card that has found nothing may say so without a MAC, and what
it sends along with that, up to seven bytes, is read as data
(`ContentManager.registry_of_rMac`).

So the data are verified but for such an end, and an entry can be read from it
(`ContentManager.registry_unverified`). -/

namespace SmartCard

namespace SecureChannel.Passage

variable {L : Type} [CardLink L] {p : Passage} {ch after : SecureChannel L} {command : Command}

/-- **An answer is verified, or it is a refusal that has no room for a MAC.** -/
theorem Follows.verifies_or (h : p.Follows ch command after)
    (hlevel : p.session.level.rMac = true) :
    p.waiting.Verifies p.raw ∨
      p.plain = p.raw ∧ p.raw.payload.length < 8 ∧ p.raw.status.isCompleted = false := by
  have hrMac : p.waiting.level.rMac = true := by rw [h.level_eq.1, hlevel]
  exact Session.verifies_or_of_unwrap hrMac (congrArg Prod.fst h.opens)

end SecureChannel.Passage

namespace ContentManager

open SecureChannel

variable {L : Type} [FiniteLink L] {subset : RegistrySubset} {format : RegistryFormat}
  {ch after : SecureChannel L} {command : Command} {data : Bytes}

/-- The status words that end a listing. -/
def EndsListing (status : StatusWord) : Prop :=
  status = .success ∨ status = .fileNotFound ∨ status = .referencedDataNotFound

/-- The pages of a listing, from one command on: each one but the last announces another. -/
inductive Pages (subset : RegistrySubset) (format : RegistryFormat) :
    SecureChannel L → Command → List Passage → SecureChannel L → Prop
  | last {ch after : SecureChannel L} {command : Command} {page : Passage}
    (h : page.Follows ch command after) (hends : EndsListing page.plain.status) :
    Pages subset format ch command [page] after
  | more {ch next after : SecureChannel L} {command : Command} {page : Passage}
    {pages : List Passage} (h : page.Follows ch command next)
    (hmore : page.plain.status = .moreData)
    (hrest : Pages subset format next
      (Command.getStatusNext subset.parameter format.parameter) pages after) :
    Pages subset format ch command (page :: pages) after

/-- One page and what comes after it. -/
theorem registryPages_eq (read : Bytes) :
    registryPages subset format command read ch =
      match ch.transmit command with
      | (.error e, after) => (.error e, after)
      | (.ok response, after) =>
        if response.status = .moreData then
          registryPages subset format (Command.getStatusNext subset.parameter format.parameter)
            (read ++ response.payload) after
        else if response.status.isSuccess || response.status.isFileNotFound ||
            response.status.isReferencedDataNotFound then
          (.ok (read ++ response.payload), after)
        else (.error (.cardStatus response.status), after) := by
  rw [registryPages]
  split
  · rename_i e next hx
    simp only [hx]
  · rename_i response next hx
    simp only [hx]

theorem endsListing_iff {status : StatusWord} : EndsListing status ↔
    (status.isSuccess || status.isFileNotFound || status.isReferencedDataNotFound) = true := by
  simp only [EndsListing, StatusWord.isSuccess, StatusWord.isFileNotFound,
    StatusWord.isReferencedDataNotFound, Bool.or_eq_true, beq_iff_eq, or_assoc]

theorem EndsListing.ne_moreData {status : StatusWord} (h : EndsListing status) :
    status ≠ .moreData := by
  rcases h with rfl | rfl | rfl
  · decide
  · decide
  · decide

/-- **The data of a listing are the payloads of its pages**, after what was read before. -/
theorem registryPages_eq_ok_iff {read : Bytes} :
    registryPages subset format command read ch = (.ok data, after) ↔
      ∃ pages, Pages subset format ch command pages after ∧
        read ++ pages.flatMap (·.plain.payload) = data := by
  constructor
  · intro h
    -- on the answers that are left, for every command and all that was read before
    induction hleft : FiniteLink.answersLeft ch.link using Nat.strongRecOn
      generalizing ch command read with
    | ind left ih =>
      rw [registryPages_eq] at h
      cases hx : ch.transmit command with
      | mk outcome next =>
        rw [hx] at h
        cases outcome with
        | error e => cases h
        | ok response =>
          -- an answer is a page, and the channel goes on with the session that has read it
          obtain ⟨page, hpage, rfl⟩ := transmit_eq_ok_iff.1 hx
          change (if page.plain.status = .moreData then _ else _) = _ at h
          by_cases hmore : page.plain.status = .moreData
          · -- another page is announced, so fewer answers are left to the induction
            rw [if_pos hmore] at h
            obtain ⟨pages, hpages, rfl⟩ := ih _ (hleft ▸ transmit_lt hx) h rfl
            exact ⟨page :: pages, .more hpage hmore hpages, by
              rw [List.flatMap_cons, List.append_assoc]⟩
          · rw [if_neg hmore] at h
            -- no other page, so the status ends the listing or is the error
            by_cases hends : EndsListing page.plain.status
            · rw [if_pos (endsListing_iff.1 hends)] at h
              cases h
              exact ⟨[page], .last hpage hends, by rw [List.flatMap_singleton]⟩
            · rw [if_neg (fun he => hends (endsListing_iff.2 he))] at h
              cases h
  · rintro ⟨pages, hpages, rfl⟩
    -- on the pages, for all that was read before
    induction hpages generalizing read with
    -- the last page: what was read before stands in front of its payload
    | @last ch after command page hpage hends =>
      rw [registryPages_eq, transmit_eq_ok_iff.2 ⟨page, hpage, rfl⟩]
      change (if page.plain.status = .moreData then _ else _) = _
      rw [if_neg hends.ne_moreData, if_pos (endsListing_iff.1 hends), List.flatMap_singleton]
    | @more ch next after command page pages hpage hmore _ ih =>
      rw [registryPages_eq, transmit_eq_ok_iff.2 ⟨page, hpage, rfl⟩]
      change (if page.plain.status = .moreData then _ else _) = _
      rw [if_pos hmore, ih, List.flatMap_cons, List.append_assoc]

/-! ### Listings over a protected channel -/

/-- A page that nothing stands for: a card that has found nothing says so without a MAC, and may
send up to seven bytes with it. -/
structure Unprotected (page : Passage) : Prop where
  plain_eq : page.plain = page.raw
  length_lt : page.raw.payload.length < 8
  status_eq : page.raw.status = .fileNotFound ∨ page.raw.status = .referencedDataNotFound

/-- Pages of which all but the last are verified, and the last is verified or unprotected. -/
inductive VerifiedPages : List Passage → Prop
  | last {page : Passage} (h : page.waiting.Verifies page.raw ∨ Unprotected page) :
    VerifiedPages [page]
  | more {page : Passage} {pages : List Passage} (h : page.waiting.Verifies page.raw)
    (hrest : VerifiedPages pages) : VerifiedPages (page :: pages)

/-- A page that announces another one is verified. -/
theorem verifies_of_moreData {page : Passage} (h : page.Follows ch command after)
    (hlevel : page.session.level.rMac = true) (hmore : page.plain.status = .moreData) :
    page.waiting.Verifies page.raw := by
  rcases h.verifies_or hlevel with hverifies | ⟨-, -, hstatus⟩
  · exact hverifies
  · -- there is more to come, so the command has completed
    rw [← h.status_eq, hmore] at hstatus
    exact absurd hstatus (by decide)

/-- A page that ends the listing is verified, unless the card has found nothing. -/
theorem verifies_or_unprotected {page : Passage} (h : page.Follows ch command after)
    (hlevel : page.session.level.rMac = true) (hends : EndsListing page.plain.status) :
    page.waiting.Verifies page.raw ∨ Unprotected page := by
  rcases h.verifies_or hlevel with hverifies | ⟨hplain, hlen, hstatus⟩
  · exact .inl hverifies
  · rw [h.status_eq] at hends
    -- a success is no refusal, so it had its MAC
    rcases hends with hsuccess | hnothing
    · rw [hsuccess] at hstatus
      exact absurd hstatus (by decide)
    · exact .inr ⟨hplain, hlen, hnothing⟩

/-- **A protected channel reads verified pages**, but for the end. -/
theorem Pages.verified {pages : List Passage} (h : Pages subset format ch command pages after)
    {session : Session} (hsession : ch.session = some session)
    (hlevel : session.level.rMac = true) : VerifiedPages pages := by
  -- on the pages, for the session that each of them is read with
  induction h generalizing session with
  | @last ch after command page hpage hends =>
    obtain rfl : session = page.session := Option.some.inj (hsession.symm.trans hpage.current)
    exact .last (verifies_or_unprotected hpage hlevel hends)
  | @more ch next after command page pages hpage hmore _ ih =>
    -- the page was read with the session of the channel, which answers at the level there was
    obtain rfl : session = page.session := Option.some.inj (hsession.symm.trans hpage.current)
    have hnext : next.session = some page.answered := by rw [hpage.goesOn]
    exact .more (verifies_of_moreData hpage hlevel hmore)
      (ih hnext (by rw [hpage.level_eq.2, hlevel]))

theorem registryData_eq (ch : SecureChannel L) : ExceptT.run (registryData subset format) ch =
    registryPages subset format (Command.getStatusFirst subset.parameter format.parameter) [] ch :=
  rfl

/-- Entries are read from the data of the whole listing. -/
theorem registry_eq_ok_iff {entries : List RegistryEntry} :
    ExceptT.run (registry subset format) ch = (.ok entries, after) ↔
      ∃ data, ExceptT.run (registryData subset format) ch = (.ok data, after) ∧
        RegistryEntry.parse subset format data = .ok entries := by
  unfold registry
  rw [ChannelM.run_bind_eq_ok_iff]
  -- the data come from the pages, and reading entries sends nothing
  constructor
  · rintro ⟨data, next, hdata, hparse⟩
    rw [ChannelM.run_liftM] at hparse
    obtain ⟨hentries, rfl⟩ := Prod.mk.inj hparse
    exact ⟨data, hdata, hentries⟩
  · rintro ⟨data, hdata, hparse⟩
    exact ⟨data, after, hdata, by rw [ChannelM.run_liftM, hparse]⟩

/-- Data that the verified pages of a listing account for, but for what an unprotected last page has
added. -/
def Accounted (subset : RegistrySubset) (format : RegistryFormat) (ch after : SecureChannel L)
    (data : Bytes) : Prop :=
  ∃ pages, Pages subset format ch
      (Command.getStatusFirst subset.parameter format.parameter) pages after ∧
    VerifiedPages pages ∧ data = pages.flatMap (·.plain.payload)

/-- **What is read over a channel with answer MACs** comes from verified answers, in the order in
which they were given, but for up to seven bytes of a last answer that says that nothing was found.
Entries are read from these data and from nothing else. -/
theorem registry_of_rMac {session : Session} (hsession : ch.session = some session)
    (hlevel : session.level.rMac = true) :
    (∀ data, ExceptT.run (registryData subset format) ch = (.ok data, after) →
        Accounted subset format ch after data) ∧
      ∀ entries, ExceptT.run (registry subset format) ch = (.ok entries, after) →
        ∃ data, Accounted subset format ch after data ∧
          RegistryEntry.parse subset format data = .ok entries := by
  have haccounted (data : Bytes)
      (h : ExceptT.run (registryData subset format) ch = (.ok data, after)) :
      Accounted subset format ch after data := by
    rw [registryData_eq] at h
    -- the pages are those of the data, and the levels stay as they are
    obtain ⟨pages, hpages, rfl⟩ := registryPages_eq_ok_iff.1 h
    exact ⟨pages, hpages, hpages.verified hsession hlevel, List.nil_append _⟩
  refine ⟨haccounted, fun entries h => ?_⟩
  obtain ⟨data, hdata, hparse⟩ := registry_eq_ok_iff.1 h
  exact ⟨data, haccounted data hdata, hparse⟩

/-! ### An unprotected page -/

/-- The last answer of a card that has found nothing, with a registry entry before the status. -/
def unprotectedAnswer : Response := ⟨[0xE3, 0x03, 0x4F, 0x01, 0xAA], .fileNotFound⟩

/-- A channel to the card of the recorded session, which answers one more command. -/
def listingChannel : SecureChannel ScriptedCard :=
  new (ScriptedCard.ofAnswers [recordedAnswer.encode, [0x90, 0x00], unprotectedAnswer.encode])
    Scp03Card.recordedKeys { level := .full }

/-- Asks for the first page of the applications. -/
def listingCommand : Command :=
  .getStatusFirst RegistrySubset.applications.parameter RegistryFormat.tlv.parameter

/-- The channel is opened with the first two answers, and the one that is left is then passed on as
it is. -/
theorem exists_unprotected_page : ∃ (ch after : SecureChannel ScriptedCard) (session : Session)
    (page : Passage),
    listingChannel.openWith Scp03Card.recordedChallenge = (.ok (), ch) ∧
      ch.session = some session ∧ session.level.rMac = true ∧
      page.raw = unprotectedAnswer ∧ page.plain = unprotectedAnswer ∧
      page.Follows ch listingCommand after := by
  have hfull (first : Session) (hstart : Session.start Scp03Card.recordedKeys
      Scp03Card.recordedOffer Scp03Card.recordedChallenge none = .ok first) :
      first.Allows .full := by
    -- the recorded card answers at the full level, so the first session allows it
    obtain ⟨first', _, _, hstart', hauth⟩ := Scp03Card.recorded_authenticates
    obtain rfl := Except.ok.inj (hstart.symm.trans hstart')
    exact (Session.authenticate_eq_ok_iff.1 hauth).2.1
  have hgives : CardLink.Gives listingChannel.link
      [recordedAnswer, .statusOnly .success, unprotectedAnswer] := ScriptedCard.gives rfl
  obtain ⟨ch, first, proof, host, hopen, hstart, hauth, hworks, hgives⟩ :=
    exists_opened_recorded listingChannel.link hgives hfull
  have hlevel : host.level = .full := Session.level_of_authenticate hauth
  have hrMac : host.level.rMac = true := by rw [hlevel]; rfl
  obtain ⟨wrapped, hwrap, hvalid⟩ := hworks.exists_protected listingCommand
    (Nat.le_trans (by decide) host.le_maxDataLength)
  obtain ⟨chaining, pending, -, hwaiting⟩ := host.exists_wrap listingCommand
  obtain ⟨link, hanswer, -⟩ := hgives wrapped hvalid
  -- the answer is too short for a MAC, and refuses the command
  have hopens : ({ host with chaining, pending } : Session).unwrap unprotectedAnswer =
      (.ok unprotectedAnswer, { host with chaining, pending := none }) :=
    Session.unwrap_of_short hrMac (by decide)
  exact ⟨ch, _, host, ⟨host, wrapped, { host with chaining, pending }, unprotectedAnswer,
    unprotectedAnswer, { host with chaining, pending := none }⟩, hopen, hworks.current, hrMac, rfl,
    rfl, ⟨hworks.established, hworks.current, Prod.ext hwrap hwaiting, congrArg Prod.fst hanswer,
      hopens, rfl⟩⟩

theorem parse_unprotectedAnswer : RegistryEntry.parse .applications .tlv unprotectedAnswer.payload =
    .ok [{ aid := [0xAA] }] := by
  have hread : Ber.readAll unprotectedAnswer.payload =
      .ok [.constructed [0xE3] [.primitive [0x4F] [0xAA]]] := by
    cbv
  change (Ber.readAll unprotectedAnswer.payload).mapError _ >>= _ = _
  rw [hread]
  rfl

/-- The whole listing is the one page that ends it. -/
theorem exists_unprotected_listing : ∃ (ch after : SecureChannel ScriptedCard) (session : Session)
    (page : Passage),
    listingChannel.openWith Scp03Card.recordedChallenge = (.ok (), ch) ∧
      ch.session = some session ∧ session.level.rMac = true ∧ page.raw = unprotectedAnswer ∧
      Pages .applications .tlv ch listingCommand [page] after ∧
      ExceptT.run (registry .applications .tlv) ch = (.ok [{ aid := [0xAA] }], after) := by
  obtain ⟨ch, after, session, page, hopen, hsession, hlevel, hraw, hplain, hfollows⟩ :=
    exists_unprotected_page
  have hpages : Pages .applications .tlv ch listingCommand [page] after :=
    .last hfollows (.inr (.inl (by rw [hplain]; rfl)))
  have hdata : ExceptT.run (registryData .applications .tlv) ch =
      (.ok unprotectedAnswer.payload, after) := by
    rw [registryData_eq, registryPages_eq_ok_iff]
    exact ⟨[page], hpages, by rw [List.flatMap_singleton, hplain]; rfl⟩
  exact ⟨ch, after, session, page, hopen, hsession, hlevel, hraw, hpages,
    registry_eq_ok_iff.2 ⟨_, hdata, parse_unprotectedAnswer⟩⟩

/-- **An entry that nothing stands for.** Over a channel at the full level an entry is reported from
an answer that is too short to be verified. -/
theorem registry_unverified : ∃ (ch after : SecureChannel ScriptedCard) (session : Session)
    (page : Passage),
    listingChannel.openWith Scp03Card.recordedChallenge = (.ok (), ch) ∧
      ch.session = some session ∧ session.level.rMac = true ∧
      ExceptT.run (registry .applications .tlv) ch = (.ok [{ aid := [0xAA] }], after) ∧
      Pages .applications .tlv ch listingCommand [page] after ∧
      page.raw.payload = [0xE3, 0x03, 0x4F, 0x01, 0xAA] ∧ ¬page.waiting.Verifies page.raw := by
  obtain ⟨ch, after, session, page, hopen, hsession, hlevel, hraw, hpages, hregistry⟩ :=
    exists_unprotected_listing
  have hpayload : page.raw.payload = unprotectedAnswer.payload := by rw [hraw]
  refine ⟨ch, after, session, page, hopen, hsession, hlevel, hregistry, hpages, hpayload, ?_⟩
  -- a verified answer has a MAC, and this one is too short for any
  rintro ⟨-, body, mac, chaining, hsplit, -⟩
  rw [hraw, splitMac_of_lt (by decide)] at hsplit
  cases hsplit

/-- The same listing, accounted for by its one unprotected page. -/
theorem registry_of_rMac_recorded : ∃ (ch after : SecureChannel ScriptedCard) (session : Session),
    listingChannel.openWith Scp03Card.recordedChallenge = (.ok (), ch) ∧
      ch.session = some session ∧ session.level.rMac = true ∧
      ∃ data, Accounted .applications .tlv ch after data ∧
        RegistryEntry.parse .applications .tlv data = .ok [{ aid := [0xAA] }] := by
  obtain ⟨ch, after, session, page, hopen, hsession, hlevel, -, -, hregistry⟩ :=
    exists_unprotected_listing
  exact ⟨ch, after, session, hopen, hsession, hlevel,
    (registry_of_rMac hsession hlevel).2 _ hregistry⟩

end ContentManager

end SmartCard
