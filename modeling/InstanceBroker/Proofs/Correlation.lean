import InstanceBroker.Proofs.Json.Yielded
import InstanceBroker.Proofs.Reply

namespace InstanceBroker.Json

/-- The text is an object, within the limits to what is kept whole, and the last of its members with
that name is that number, which is written without sign, fraction and exponent. -/
def Holds (name text : String) (n : Nat) : Prop :=
  ∃ members key numeral, (Datum.object members).Spells text ∧
    (Datum.object members).Fits maxDepth ∧
    (members.filter (·.1.value = name)).getLast? = some (key, .number numeral) ∧
    numeral.natural? = some n ∧ n < 2 ^ 64

def namesakes (name : String) (members : List Member) : List Member :=
  members.filter fun member => match member.key with
    | .ok key => key = name
    | .error _ => false

def ShowsMember (member : Literal × Datum) (tree : Member) : Prop :=
  tree.key = .ok member.1.value ∧ Shows member.2 tree.value

theorem ShowsMembers.forall₂ {data : List (Literal × Datum)} {members : List Member}
    (shows : ShowsMembers data members) : List.Forall₂ ShowsMember data members := by
  induction data generalizing members with
  | nil =>
    cases shows
    exact .nil
  | cons datum rest ih =>
    cases shows with
    | cons first more => exact .cons ⟨rfl, first⟩ (ih more)

theorem ShowsMembers.namesakes {data : List (Literal × Datum)} {members : List Member}
    (shows : ShowsMembers data members) (name : String) :
    List.Forall₂ ShowsMember (data.filter (·.1.value = name)) (namesakes name members) := by
  refine List.rel_filter (fun datum member shown => ?_) shows.forall₂
  simp only [shown.1]

theorem rel_getLast? {α β : Type} {R : α → β → Prop} {first : List α} {second : List β}
    (each : List.Forall₂ R first second) : Option.Rel R first.getLast? second.getLast? := by
  rw [← List.head?_reverse, ← List.head?_reverse]
  have turned := List.rel_reverse each
  generalize first.reverse = first at turned ⊢
  generalize second.reverse = second at turned ⊢
  cases turned with
  | nil => exact .none
  | cons shown => exact .some shown

theorem number_of_shows {numeral : Numeral} {tree : Tree} (shows : Shows (.number numeral) tree) :
    ∃ read place, tree = .number read place ∧ read.toOption = numeral.value? := by
  cases shows with
  | number means => exact ⟨_, _, rfl, means⟩

theorem naturalMember?_eq_some {name text : String} {value : UInt64}
    (found : naturalMember? name text = some value) :
    (Document.ofText text).root.keep maxDepth = .ok () ∧
      (Document.ofText text).trailing = none ∧
      ∃ start members ending key afterKey stop after,
        (Document.ofText text).root = .object start members ending ∧
        (namesakes name members).getLast? =
          some (.mk key afterKey (.number (.ok (.natural value)) stop) after) := by
  unfold naturalMember? at found
  dsimp only at found
  split at found
  · rename_i start members ending kept ended whole
    split at found
    · rename_i key afterKey number stop after last
      cases found
      exact ⟨kept, ended, start, members, ending, key, afterKey, stop, after, whole, last⟩
    · cases found
  · cases found

theorem naturalMember?_of_getLast? {name text : String} {value : UInt64} {start : Position}
    {members : List Member} {ending : Ending} {key : Except Error String}
    {afterKey stop after : Position}
    (kept : (Document.ofText text).root.keep maxDepth = .ok ())
    (ended : (Document.ofText text).trailing = none)
    (whole : (Document.ofText text).root = .object start members ending)
    (last : (namesakes name members).getLast? =
      some (.mk key afterKey (.number (.ok (.natural value)) stop) after)) :
    naturalMember? name text = some value := by
  unfold naturalMember?
  dsimp only
  rw [kept, ended, whole]
  dsimp only
  split
  · rename_i found
    cases found.symm.trans last
    rfl
  · rename_i other
    exact (other _ _ _ _ _ last).elim

theorem holds_of_naturalMember? {name text : String} {value : UInt64}
    (found : naturalMember? name text = some value) : Holds name text value.toNat := by
  obtain ⟨kept, ended, start, members, ending, key, afterKey, stop, after, whole, last⟩ :=
    naturalMember?_eq_some found
  obtain ⟨datum, spells, shows⟩ := spells_of_keep kept ended
  have fits := (keep_eq_ok_iff shows maxDepth).mp kept
  rw [whole] at shows
  cases shows with
  | @object data _ _ _ each =>
    have lasts := rel_getLast? (each.namesakes name)
    rw [last] at lasts
    generalize spoken : (data.filter (·.1.value = name)).getLast? = datum at lasts
    cases lasts with
    | @some datum _ shown =>
      obtain ⟨literal, datum⟩ := datum
      obtain ⟨-, shown⟩ := shown
      cases shown with
      | @number numeral _ _ means =>
        exact ⟨data, literal, numeral, spells, fits, spoken,
          (numeral.value?_eq_natural_iff value).mp means.symm, value.toNat_lt⟩

theorem naturalMember?_of_holds {name text : String} {value : UInt64}
    (holds : Holds name text value.toNat) : naturalMember? name text = some value := by
  obtain ⟨data, literal, numeral, spells, fits, spoken, natural, -⟩ := holds
  obtain ⟨shows, ended⟩ := shows_of_spells spells
  have kept := (keep_eq_ok_iff shows maxDepth).mpr fits
  generalize whole : (Document.ofText text).root = root at shows
  cases shows with
  | @object _ start stop members each =>
    have lasts := rel_getLast? (each.namesakes name)
    rw [spoken] at lasts
    generalize last : (namesakes name members).getLast? = member at lasts
    cases lasts with
    | @some _ member shown =>
      obtain ⟨key, afterKey, tree, after⟩ := member
      obtain ⟨read, place, rfl, means⟩ := number_of_shows shown.2
      rw [(numeral.value?_eq_natural_iff value).mpr natural] at means
      cases read with
      | error => cases means
      | ok read =>
        cases means
        exact naturalMember?_of_getLast? kept ended whole last

theorem naturalMember?_eq_some_iff (name text : String) (value : UInt64) :
    naturalMember? name text = some value ↔ Holds name text value.toNat :=
  ⟨holds_of_naturalMember?, naturalMember?_of_holds⟩

theorem strict_eq_ok {α : Type} {made : Except Error α} {value : α}
    (good : strict made = .ok value) : made = .ok value := by
  cases made with
  | error => cases good
  | ok => cases good; rfl

theorem namesakes_cons (name key : String) (afterKey after : Position) (tree : Tree)
    (rest : List Member) : namesakes name (.mk (.ok key) afterKey tree after :: rest) =
      if key = name then .mk (.ok key) afterKey tree after :: namesakes name rest
      else namesakes name rest := by
  by_cases same : key = name <;> simp [namesakes, Member.key, same]

namespace Layout

variable {α : Type} {layout : Layout α} {reading : Reading} {name : String}

/-- What a member comes to when the members are scanned: a field that was not seen before, or
something that is skipped. -/
theorem scan_cons {seen : List String} {key : Except Error String} {afterKey after : Position}
    {tree : Tree} {rest : List Member} {row : List (String × Tree)}
    (scanned : layout.scan reading seen (.mk key afterKey tree after :: rest) = .ok row) :
    ∃ spelled, key = .ok spelled ∧
      ((∃ others, (layout.check? reading spelled).isSome = true ∧ spelled ∉ seen ∧
          layout.scan reading (spelled :: seen) rest = .ok others ∧
          row = (spelled, tree) :: others) ∨
        layout.check? reading spelled = none ∧ layout.scan reading seen rest = .ok row) := by
  unfold scan at scanned
  obtain ⟨spelled, good, scanned⟩ := ok_of_bind scanned
  refine ⟨spelled, strict_eq_ok good, ?_⟩
  cases field : layout.check? reading spelled with
  | some check =>
    simp only [field] at scanned
    split at scanned
    · cases scanned
    · rename_i unseen
      obtain ⟨_, -, scanned⟩ := ok_of_bind scanned
      obtain ⟨others, more, scanned⟩ := ok_of_bind scanned
      cases scanned
      exact .inl ⟨others, rfl, by simpa using unseen, more, rfl⟩
  | none =>
    simp only [field] at scanned
    split at scanned
    · obtain ⟨_, -, scanned⟩ := ok_of_bind scanned
      exact .inr ⟨rfl, scanned⟩
    · exact .inr ⟨rfl, scanned⟩

theorem namesakes_of_scan {seen : List String} {members : List Member}
    {row : List (String × Tree)} (scanned : layout.scan reading seen members = .ok row)
    (field : (layout.check? reading name).isSome = true) :
    (namesakes name members).map (·.value) = (row.lookup name).toList ∧
      (name ∈ seen → namesakes name members = []) := by
  induction members generalizing seen row with
  | nil =>
    cases scanned
    exact ⟨rfl, fun _ => rfl⟩
  | cons member rest ih =>
    obtain ⟨key, afterKey, tree, after⟩ := member
    obtain ⟨spelled, rfl, ⟨others, -, unseen, more, rfl⟩ | ⟨skipped, more⟩⟩ :=
      scan_cons scanned
    · obtain ⟨there, gone⟩ := ih more
      rw [namesakes_cons]
      by_cases same : spelled = name
      · subst same
        rw [if_pos rfl, gone List.mem_cons_self, List.lookup_cons_self]
        exact ⟨rfl, fun before => absurd before unseen⟩
      · rw [if_neg same, List.lookup_cons, beq_false_of_ne (Ne.symm same)]
        exact ⟨there, fun before => gone (List.mem_cons_of_mem _ before)⟩
    · rw [namesakes_cons, if_neg]
      · exact ih more
      · rintro rfl
        rw [skipped] at field
        cases field

theorem members_of_decode {expected : String} {start : Position} {members : List Member}
    {ending : Ending} {value : α}
    (decoded : layout.decode expected reading (.object start members ending) = .ok value) :
    ∃ inner, layout.buildMembers inner members ending = .ok value := by
  obtain ⟨inner, -, built⟩ := ok_of_bind decoded
  exact ⟨inner, built⟩

theorem required_of_build {β : Type} {codec : Codec β} {missing : String → Problem}
    {row : List (String × Tree)} {value : β × α}
    (built : (layout.required name codec).build reading missing row = .ok value) :
    ∃ tree, row.lookup name = some tree ∧ codec.decode reading tree = .ok value.1 := by
  unfold required build at built
  split at built
  · rename_i tree there
    obtain ⟨first, taken, built⟩ := ok_of_bind built
    obtain ⟨_, -, same⟩ := ok_of_bind built
    cases same
    exact ⟨tree, there, taken⟩
  · rename_i impossible
    cases impossible
  · cases built

end Layout

theorem Codec.uint64_of_decode {reading : Reading} {tree : Tree} {value : UInt64}
    (decoded : Codec.uint64.decode reading tree = .ok value) :
    ∃ stop, tree = .number (.ok (.natural value)) stop := by
  rw [uint64, decode_imap] at decoded
  obtain ⟨read, taken, rfl⟩ := ok_of_map decoded
  unfold natural at taken
  dsimp only at taken
  split at taken
  · split at taken
    · cases taken
      exact ⟨_, by rw [UInt64.ofNat_toNat]⟩
    · cases taken
  · cases taken
  · cases taken

end InstanceBroker.Json

namespace InstanceBroker

open Json (Datum Document Holds inBraces inQuotes maxDepth naturalMember?)

theorem Envelope.naturalMember?_of_read {text : String} {envelope : Envelope}
    (read : codec.read text = .ok envelope) {members : List (Json.Literal × Datum)}
    (spells : (Datum.object members).Spells text)
    (fits : (Datum.object members).Fits maxDepth) :
    naturalMember? "id" text = some envelope.id := by
  obtain ⟨shows, ended⟩ := Json.shows_of_spells spells
  have kept := (Json.keep_eq_ok_iff shows maxDepth).mpr fits
  obtain ⟨value, decoded, same⟩ := ok_of_bind read
  simp only [ended] at same
  cases same
  obtain ⟨⟨id, request⟩, taken, rfl⟩ := ok_of_map decoded
  generalize whole : (Document.ofText text).root = root at shows taken
  cases shows with
  | @object _ start stop members each =>
    obtain ⟨reading, taken⟩ := Json.Layout.members_of_decode taken
    obtain ⟨row, missing, scanned, built⟩ := Json.Layout.row_of_buildMembers taken
    have field : (layout.check? reading "id").isSome = true := rfl
    obtain ⟨there, -⟩ := Json.Layout.namesakes_of_scan scanned field
    obtain ⟨tree, found, decoded⟩ := Json.Layout.required_of_build built
    obtain ⟨stop, rfl⟩ := Json.Codec.uint64_of_decode decoded
    rw [found, Option.toList_some, List.map_eq_singleton_iff] at there
    obtain ⟨⟨key, afterKey, _, after⟩, alone, rfl⟩ := there
    exact Json.naturalMember?_of_getLast? kept ended whole (by rw [alone]; rfl)

theorem Envelope.eq_of_naturalMember? {text : String} {envelope : Envelope} {id : UInt64}
    (read : codec.read text = .ok envelope) (member : naturalMember? "id" text = some id) :
    id = envelope.id := by
  obtain ⟨members, _, _, spells, fits, _⟩ := (Json.naturalMember?_eq_some_iff _ _ _).mp member
  rw [naturalMember?_of_read read spells fits] at member
  exact (Option.some.inj member).symm

namespace Server

variable {World Task : Type} {service : Service World Task} {config : Config} {origin : Timestamp}
  {world : World} {thrownAway : List TransactionId} {connection : Nat}
  {exchanges : List (Exchange World Task)} {last : State World Task}

structure Identified (text : String) (id : Option UInt64) : Prop where
  held : ∀ n, Holds "id" text n → id.map (·.toNat) = some n
  unheld : ∀ problem, Envelope.codec.read text = .error problem →
    (∀ n, ¬Holds "id" text n) →
    id = none

/-- The replies on a connection are under the identifiers that their frames hold, and nothing that
cannot be read goes without a reply. -/
structure Correlated (exchanges : List (Exchange World Task)) (last : State World Task) : Prop where
  paired : ∃ order : List Nat, order.Nodup ∧
    List.Forall₂ (fun n reply => ∃ frame, (frames exchanges)[n]? = some frame ∧
      last.Answers frame reply ∧ Identified frame.1 reply.id) order last.inbox ∧
    ∀ n frame problem, (frames exchanges)[n]? = some frame →
      Envelope.codec.read frame.1 = .error problem → n ∈ order
  agreed : ∀ text envelope, Envelope.codec.read text = .ok envelope →
    (∀ id, naturalMember? "id" text = some id → id = envelope.id) ∧
    ∀ members, (Datum.object members).Spells text → (Datum.object members).Fits maxDepth →
      naturalMember? "id" text = some envelope.id

theorem State.Answers.identified {state : State World Task} {frame : TextFrame} {reply : Reply}
    (answers : state.Answers frame reply) : Identified frame.1 reply.id := by
  have found {text : String} {n : Nat} (holds : Holds "id" text n) :
      ∃ value : UInt64, value.toNat = n ∧ naturalMember? "id" text = some value := by
    obtain ⟨_, _, _, _, _, _, _, small⟩ := id holds
    have back : (UInt64.ofNat n).toNat = n := Nat.mod_eq_of_lt small
    refine ⟨.ofNat n, back, (Json.naturalMember?_eq_some_iff _ _ _).mpr ?_⟩
    rwa [back]
  cases answers with
  | answered readable =>
    refine ⟨fun n holds => ?_, fun problem unreadable => ?_⟩
    · obtain ⟨value, rfl, member⟩ := found holds
      rw [Envelope.eq_of_naturalMember? readable member]
      rfl
    · rw [readable] at unreadable
      cases unreadable
  | refused unreadable =>
    refine ⟨fun n holds => ?_, fun problem _ unheld => ?_⟩
    · obtain ⟨value, rfl, member⟩ := found holds
      simp only [member, Option.map_some]
    · refine Option.eq_none_iff_forall_ne_some.mpr fun value member => ?_
      exact unheld value.toNat ((Json.naturalMember?_eq_some_iff _ _ _).mp member)

/-- Whatever comes in and whoever moves first, a reply is under the identifier that its frame
holds. -/
theorem correlated_of_dialog
    (dialog : Dialog service (.opened config origin world thrownAway connection) exchanges last) :
    Correlated exchanges last := by
  have books := dialog.books (State.serving_opened ..) books_opened
  obtain ⟨order, pairs⟩ := dialog.pairs (State.serving_opened ..) books_opened rfl
  refine ⟨⟨order, pairs.once, ?_, fun n frame problem found unreadable => ?_⟩,
    fun text envelope readable => ⟨fun id member => ?_, fun members => ?_⟩⟩
  · have matched : List.Forall₂ Eq (order.map (last.done (frames exchanges)))
        (last.inbox.map some) := by
      rw [List.forall₂_eq_eq_eq]
      exact pairs.answering
    rw [List.forall₂_map_left_iff, List.forall₂_map_right_iff] at matched
    refine matched.imp fun n reply replied => ?_
    obtain ⟨frame, found, answers⟩ := State.answers_of_done books replied
    exact ⟨frame, found, answers, answers.identified⟩
  · obtain ⟨text, caller⟩ := frame
    rcases ofFrame_cases text with ⟨envelope, readable, -⟩ | ⟨_, _, framed⟩
    · rw [unreadable] at readable
      cases readable
    · have replied : (last.done (frames exchanges) n).isSome = true := by
        rw [State.done, found, Option.bind_some, State.replyTo?]
        simp only [framed]
        rfl
      exact pairs.complete n _ (Option.some_get replied).symm
  · exact Envelope.eq_of_naturalMember? readable member
  · exact Envelope.naturalMember?_of_read readable

/-- A name that is spelled with an escape, two identifiers without a request, and a list. -/
def murmur : List Message :=
  [.text (inBraces [("\\u0069d", "7"), ("request", inBraces [("type", inQuotes "GetInstances")])]),
    .text (inBraces [("id", "9"), ("id", "8")]), .text "[8]"]

theorem correlated_murmur : ∃ exchanges last,
    Dialog (Simulated.Plan.service {}) (.opened {} ⟨0, 0⟩ {} [] 0) exchanges last ∧
    messages exchanges = murmur ∧ last.inbox.map (·.id) = [some 7, some 8, none] ∧
    Correlated exchanges last := by
  have silent : Dialog (Simulated.Plan.service {}) (.opened {} ⟨0, 0⟩ {} [] 0) []
    (.opened {} ⟨0, 0⟩ {} [] 0) := .nil
  obtain ⟨exchanges, received, dialog⟩ := silent.receiveAll murmur
  exact ⟨exchanges, _, dialog, received, by decide +kernel, correlated_of_dialog dialog⟩

end Server

end InstanceBroker
