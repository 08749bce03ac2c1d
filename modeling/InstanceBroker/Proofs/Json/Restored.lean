import InstanceBroker.Json.Codec
import InstanceBroker.Proofs.Json.Written

namespace InstanceBroker.Json

/-- What the value is written as is plain, and it is read as the value wherever there are as many
levels left as it has. -/
structure Codec.Restores {α : Type} (codec : Codec α) (levels : Nat) (value : α) : Prop where
  plain : (codec.encode value).Plain levels
  read : ∀ reading tree, levels ≤ reading.depth → Shows (codec.encode value).datum tree →
    codec.decode reading tree = .ok value

theorem Reading.enter_of_deep {levels : Nat} {reading : Reading}
    (deep : levels + 1 ≤ reading.depth)
    (start : Position) : reading.enter start = .ok reading.deeper ∧
      levels ≤ reading.deeper.depth := by
  have positive : reading.depth ≠ 0 := by omega
  refine ⟨by simp [Reading.enter, positive], ?_⟩
  unfold Reading.deeper
  dsimp only
  omega

namespace Codec

variable {α β : Type} {codec : Codec α} {levels : Nat}

theorem restores_boolean (levels : Nat) (value : Bool) : boolean.Restores levels value where
  plain := trivial
  read _ _ _ shows := by
    cases shows
    rfl

theorem restores_string (levels : Nat) (value : String) : string.Restores levels value where
  plain := trivial
  read _ _ _ shows := by
    cases shows
    rfl

theorem restores_natural (expected : String) (levels : Nat) {most value : Nat}
    (most_le : most ≤ Number.maxNatural) (value_le : value ≤ most) :
    (natural expected most).Restores levels value where
  plain := Nat.le_trans value_le most_le
  read reading tree _ shows := by
    have small : value ≤ Number.maxNatural := Nat.le_trans value_le most_le
    have bound : value < 2 ^ 64 := Nat.lt_of_le_of_lt small (by decide)
    have back : (UInt64.ofNat value).toNat = value := Nat.mod_eq_of_lt bound
    cases shows with
    | @number _ number stop means =>
      rw [Numeral.value?_ofNat small] at means
      cases number with
      | error => cases means
      | ok number =>
        cases means
        simp only [natural, back, value_le, if_true]

theorem decode_imap (codec : Codec α) (read : α → β) (write : β → α) (reading : Reading)
    (tree : Tree) :
    (codec.imap read write).decode reading tree = read <$> codec.decode reading tree := by
  unfold imap map
  dsimp only
  cases codec.decode reading tree <;> rfl

theorem Restores.imap {value : β} {read : α → β} {write : β → α}
    (restores : codec.Restores levels (write value)) (back : read (write value) = value) :
    (codec.imap read write).Restores levels value where
  plain := restores.plain
  read reading tree deep shows := by
    rw [decode_imap, restores.read reading tree deep shows]
    exact congrArg Except.ok back

theorem restores_uint16 (levels : Nat) (value : UInt16) : uint16.Restores levels value :=
  (restores_natural "u16" levels (by decide) (Nat.le_of_lt_succ value.toNat_lt)).imap
    UInt16.ofNat_toNat

theorem restores_uint32 (levels : Nat) (value : UInt32) : uint32.Restores levels value :=
  (restores_natural "u32" levels (by decide) (Nat.le_of_lt_succ value.toNat_lt)).imap
    UInt32.ofNat_toNat

theorem restores_uint64 (levels : Nat) (value : UInt64) : uint64.Restores levels value :=
  (restores_natural "u64" levels (Nat.le_refl _) (Nat.le_of_lt_succ value.toNat_lt)).imap
    UInt64.ofNat_toNat

theorem restores_none (codec : Codec α) (levels : Nat) :
    (option codec).Restores levels none where
  plain := trivial
  read _ _ _ shows := by
    cases shows
    rfl

theorem Restores.optional {value : α} (restores : codec.Restores levels value)
    (there : codec.encode value ≠ .null) : (option codec).Restores levels (some value) where
  plain := restores.plain
  read reading tree deep shows := by
    have decoded := restores.read reading tree deep shows
    have plain := restores.plain
    cases tree with
    | null =>
      change Shows (codec.encode value).datum _ at shows
      generalize codec.encode value = written at shows plain there
      cases written with
      | null => exact absurd rfl there
      | double => exact plain.elim
      | _ => cases shows
    | _ =>
      simp only [option, decoded]
      rfl

theorem decodeItems_of_shows {reading : Reading} {values : List α} {items : List Item}
    (deep : levels ≤ reading.depth) (each : ∀ value ∈ values, codec.Restores levels value)
    (shows : ShowsItems (Value.itemData (values.map codec.encode)) items) :
    decodeItems codec reading items = .ok values := by
  induction values generalizing items with
  | nil =>
    cases shows
    rfl
  | cons value rest ih =>
    cases shows with
    | @cons _ _ tree after items first others =>
      have decoded := (each value List.mem_cons_self).read reading tree deep first
      have more := ih (fun value among => each value (List.mem_cons_of_mem _ among)) others
      simp only [decodeItems, decoded, more]
      rfl

theorem itemsPlain_map {values : List α}
    (each : ∀ value ∈ values, codec.Restores levels value) :
    Value.ItemsPlain levels (values.map codec.encode) := by
  induction values with
  | nil => trivial
  | cons value rest ih =>
    exact ⟨(each value List.mem_cons_self).plain,
      ih fun value among => each value (List.mem_cons_of_mem _ among)⟩

theorem restores_list {values : List α}
    (each : ∀ value ∈ values, codec.Restores levels value) :
    (list codec).Restores (levels + 1) values where
  plain := ⟨Nat.succ_pos _, itemsPlain_map each⟩
  read reading tree deep shows := by
    cases shows with
    | @list _ start stop items shows =>
      obtain ⟨enters, deeper⟩ := Reading.enter_of_deep deep start
      have decoded := decodeItems_of_shows deeper each shows
      change (reading.enter start).bind (fun inner => (decodeItems codec inner items).bind
        fun values => .ok values) = _
      rw [enters]
      change (decodeItems codec reading.deeper items).bind _ = _
      rw [decoded]
      rfl

theorem restores_names [DecidableEq α] {names : List (String × α)} (levels : Nat) {value : α}
    (known : names.lookup (((names.find? (·.2 = value)).map (·.1)).getD "") = some value) :
    (Codec.names names).Restores levels value where
  plain := trivial
  read _ _ _ shows := by
    cases shows
    simp only [Codec.names, decodeName, variant, Literal.ofString, known]

end Codec

namespace Layout

def Restores {α : Type} (levels : Nat) : Layout α → α → Prop
  | .done, () => True
  | .field name codec absent isShown rest, (value, others) =>
    name ∉ rest.names ∧
      (if isShown value then codec.Restores levels value else absent = some value) ∧
      rest.Restores levels others

/-- The row suits what the fields are to be read from. -/
def Suits {α : Type} (reading : Reading) (row : List (String × Tree)) : Layout α → α → Prop
  | .done, () => True
  | .field name codec absent _ rest, (value, others) =>
    (match row.lookup name with
      | some tree => codec.decode reading tree = .ok value
      | none => absent = some value) ∧ rest.Suits reading row others

def row (members : List Member) : List (String × Tree) :=
  members.filterMap fun member => match member.key with
    | .ok key => some (key, member.value)
    | .error _ => none

variable {α : Type} {levels : Nat} {reading : Reading}

theorem build_of_suits {layout : Layout α} {value : α} {row : List (String × Tree)}
    (suits : layout.Suits reading row value) (missing : String → Problem) :
    layout.build reading missing row = .ok value := by
  induction layout with
  | done => rfl
  | field name codec absent isShown rest ih =>
    obtain ⟨value, others⟩ := value
    obtain ⟨first, suits⟩ := suits
    have built := ih suits
    unfold build
    split
    · rename_i tree found
      rw [found] at first
      dsimp only at first
      rw [first, built]
      rfl
    · rename_i found
      rw [found] at first
      cases first
      rw [built]
      rfl
    · rename_i found
      rw [found] at first
      cases first

theorem Suits.cons {layout : Layout α} {value : α} {row : List (String × Tree)}
    (suits : layout.Suits reading row value) {name : String} (new : name ∉ layout.names)
    (tree : Tree) : layout.Suits reading ((name, tree) :: row) value := by
  induction layout with
  | done => trivial
  | field other codec absent isShown rest ih =>
    obtain ⟨value, others⟩ := value
    obtain ⟨apart, new⟩ := not_or.mp (List.mem_cons.not.mp new)
    refine ⟨?_, ih suits.2 new⟩
    rw [List.lookup_cons, beq_false_of_ne (Ne.symm apart)]
    exact suits.1

theorem lookup_of_not_mem {layout : Layout α} {value : α} {members : List Member}
    (shows : ShowsMembers (Value.memberData (layout.members value)) members) {name : String}
    (new : name ∉ layout.names) : (row members).lookup name = none := by
  induction layout generalizing members with
  | done =>
    cases shows
    rfl
  | field other codec absent isShown rest ih =>
    obtain ⟨value, others⟩ := value
    obtain ⟨apart, new⟩ := not_or.mp (List.mem_cons.not.mp new)
    unfold Layout.members at shows
    split at shows
    · cases shows with
      | cons first others =>
        change List.lookup name ((other, _) :: row _) = none
        rw [List.lookup_cons, beq_false_of_ne apart]
        exact ih others new
    · exact ih shows new

theorem suits_of_shows {layout : Layout α} {value : α} {members : List Member}
    (restores : layout.Restores levels value) (deep : levels ≤ reading.depth)
    (shows : ShowsMembers (Value.memberData (layout.members value)) members) :
    layout.Suits reading (row members) value := by
  induction layout generalizing members with
  | done => trivial
  | field name codec absent isShown rest ih =>
    obtain ⟨value, others⟩ := value
    obtain ⟨new, first, restores⟩ := restores
    unfold Layout.members at shows
    split at shows
    · rename_i shown
      rw [if_pos shown] at first
      cases shows with
      | @cons key _ _ afterKey tree after members shows more =>
        refine ⟨?_, (ih restores more).cons new tree⟩
        change (match List.lookup name ((name, tree) :: row members) with
          | some tree => codec.decode reading tree = .ok value
          | none => absent = some value)
        rw [List.lookup_cons_self]
        exact first.read reading tree deep shows
    · rename_i hidden
      rw [if_neg hidden] at first
      refine ⟨?_, ih restores shows⟩
      rw [lookup_of_not_mem shows new]
      exact first

theorem check?_self {name : String} (codec : Codec α) (absent : Option α)
    (isShown : α → Bool) {β : Type} (rest : Layout β) :
    (Layout.field name codec absent isShown rest).check? reading name =
      some fun tree => (codec.decode reading tree).map fun _ => () :=
  if_pos rfl

theorem check?_rest {name other : String} (apart : other ≠ name) (codec : Codec α)
    (absent : Option α) (isShown : α → Bool) {β : Type} (rest : Layout β) :
    (Layout.field name codec absent isShown rest).check? reading other =
      rest.check? reading other :=
  if_neg apart

theorem scan_field {whole : Layout α} {seen : List String} {key : String}
    {afterKey after : Position} {tree : Tree} {rest : List Member} {check : Tree → Result Unit}
    (field : whole.check? reading key = some check) (passes : check tree = .ok ())
    (unseen : key ∉ seen) :
    whole.scan reading seen (.mk (.ok key) afterKey tree after :: rest) =
      ((key, tree) :: ·) <$> whole.scan reading (key :: seen) rest := by
  have fresh : seen.contains key = false := by simpa using unseen
  rw [scan, strict, ok_bind]
  simp only [field, fresh, passes, Except.mapError, ok_bind, Bool.false_eq_true, if_false]
  cases whole.scan reading (key :: seen) rest <;> rfl

theorem scan_of_shows {β : Type} {whole : Layout β} {layout : Layout α} {value : α}
    {members : List Member} {seen : List String} (restores : layout.Restores levels value)
    (deep : levels ≤ reading.depth)
    (shows : ShowsMembers (Value.memberData (layout.members value)) members)
    (among : ∀ name ∈ layout.names, whole.check? reading name = layout.check? reading name)
    (unseen : ∀ name ∈ layout.names, name ∉ seen) :
    whole.scan reading seen members = .ok (row members) := by
  induction layout generalizing members seen with
  | done =>
    cases shows
    rfl
  | field name codec absent isShown rest ih =>
    obtain ⟨value, others⟩ := value
    obtain ⟨new, first, restores⟩ := restores
    have rest_among : ∀ other ∈ rest.names,
        whole.check? reading other = rest.check? reading other := by
      intro other inside
      have apart : other ≠ name := fun same => new (same ▸ inside)
      rw [among other (List.mem_cons_of_mem _ inside), check?_rest apart]
    unfold Layout.members at shows
    split at shows
    · rename_i shown
      rw [if_pos shown] at first
      cases shows with
      | @cons key _ _ afterKey tree after members shows more =>
        have decoded := first.read reading tree deep shows
        have field := (among name List.mem_cons_self).trans (check?_self codec absent isShown rest)
        have rest_unseen : ∀ other ∈ rest.names, other ∉ name :: seen := by
          intro other inside before
          rcases List.mem_cons.mp before with rfl | before
          · exact new inside
          · exact unseen other (List.mem_cons_of_mem _ inside) before
        have passes : (codec.decode reading tree).map (fun _ => ()) = .ok () := by
          rw [decoded]
          rfl
        change whole.scan reading seen (.mk (.ok name) afterKey tree after :: members) = _
        rw [scan_field field passes (unseen name List.mem_cons_self),
          ih restores more rest_among rest_unseen]
        rfl
    · exact ih restores shows rest_among fun other inside =>
        unseen other (List.mem_cons_of_mem _ inside)

theorem map_members_subset (layout : Layout α) (value : α) :
    (layout.members value).map (·.1) ⊆ layout.names := by
  induction layout with
  | done => exact List.Subset.refl []
  | field name codec absent isShown rest ih =>
    obtain ⟨value, others⟩ := value
    unfold Layout.members
    split
    · exact List.cons_subset_cons name (ih others)
    · exact List.subset_cons_of_subset name (ih others)

theorem membersPlain_members {layout : Layout α} {value : α}
    (restores : layout.Restores levels value) :
    Value.MembersPlain levels (layout.members value) := by
  induction layout with
  | done => trivial
  | field name codec absent isShown rest ih =>
    obtain ⟨value, others⟩ := value
    obtain ⟨-, first, restores⟩ := restores
    unfold Layout.members
    split
    · rename_i shown
      rw [if_pos shown] at first
      exact ⟨first.plain, ih restores⟩
    · exact ih restores

theorem buildMembers_of_shows {layout : Layout α} {value : α} {members : List Member}
    (restores : layout.Restores levels value) (deep : levels ≤ reading.depth)
    (shows : ShowsMembers (Value.memberData (layout.members value)) members) (stop : Position) :
    layout.buildMembers reading members (.closed stop) = .ok value := by
  have unseen : ∀ name ∈ layout.names, name ∉ [] := fun _ _ => List.not_mem_nil
  have scanned := scan_of_shows restores deep shows (fun _ _ => rfl) unseen
  have built := build_of_suits (suits_of_shows restores deep shows)
  unfold buildMembers
  rw [scanned, ok_bind]
  dsimp only
  rw [built, Ending.read, strict, ok_bind, ite_self]

theorem restores_codec {β : Type} {layout : Layout α} (expected : String) {make : α → β}
    {parts : β → α} {value : β} (restores : layout.Restores levels (parts value))
    (back : make (parts value) = value) :
    (layout.codec expected make parts).Restores (levels + 1) value where
  plain := ⟨Nat.succ_pos _, membersPlain_members restores⟩
  read reading tree deep shows := by
    cases shows with
    | @object _ start stop members shows =>
      obtain ⟨enters, deeper⟩ := Reading.enter_of_deep deep start
      have built := buildMembers_of_shows restores deeper shows stop
      change make <$> ((reading.enter start).bind fun inner =>
        layout.buildMembers inner members (.closed stop)) = .ok value
      rw [enters]
      change make <$> layout.buildMembers reading.deeper members (.closed stop) = .ok value
      rw [built]
      exact congrArg Except.ok back

end Layout

structure Variant.Restores {α : Type} (variant : Variant α) (levels : Nat) (value : α)
    (members : List (String × Value)) : Prop where
  takes : variant.members? value = some members
  untagged : Tagged.tagName ∉ members.map (·.1)
  plain : Value.MembersPlain levels members
  read : ∀ trees, ShowsMembers (Value.memberData members) trees →
    variant.ofMembers trees = .ok value

namespace Variant

variable {α β : Type} {levels : Nat}

theorem restores_record (name expected : String) {layout : Layout β} {make : β → α}
    {parts? : α → Option β} {value : α} {parts : β} (taken : parts? value = some parts)
    (restores : layout.Restores levels parts) (back : make parts = value)
    (untagged : Tagged.tagName ∉ layout.names) (deep : levels ≤ maxDepth) :
    (record name expected layout make parts?).Restores levels value (layout.members parts) where
  takes := congrArg (Option.map layout.members) taken
  untagged among := untagged (Layout.map_members_subset layout parts among)
  plain := Layout.membersPlain_members restores
  read trees shows := by
    have built : layout.buildMembers buffer trees (.closed {}) = .ok parts :=
      Layout.buildMembers_of_shows restores deep shows {}
    change make <$> layout.buildMembers buffer trees (.closed {}) = .ok value
    rw [built]
    exact congrArg Except.ok back

theorem restores_plain [DecidableEq α] (name : String) (value : α) :
    (plain name value).Restores levels value [] where
  takes := if_pos rfl
  untagged := List.not_mem_nil
  plain := trivial
  read _ _ := rfl

end Variant

namespace Tagged

variable {α : Type} {levels : Nat} {tagged : Tagged α}

theorem split_of_shows {reading : Reading} {members : List (String × Value)} {trees : List Member}
    (plain : Value.MembersPlain levels members) (untagged : tagName ∉ members.map (·.1))
    (deep : levels ≤ reading.depth) (shows : ShowsMembers (Value.memberData members) trees)
    (found : Option (Variant α)) : tagged.split reading found trees = .ok (found, trees) := by
  induction members generalizing trees with
  | nil =>
    cases shows
    rfl
  | cons member rest ih =>
    obtain ⟨key, value⟩ := member
    obtain ⟨apart, untagged⟩ := not_or.mp (List.mem_cons.not.mp untagged)
    cases shows with
    | @cons _ _ _ afterKey tree after trees shows more =>
      have fits := Value.fits_datum (Value.Plain.mono deep plain.1)
      have kept := (keep_eq_ok_iff shows reading.depth).mpr fits
      change tagged.split reading found (.mk (.ok key) afterKey tree after :: trees) = _
      rw [split, strict, ok_bind, if_neg (Ne.symm apart), kept, strict, ok_bind,
        ih plain.2 untagged more]
      rfl

theorem split_of_tag {name : String} {variant : Variant α} {reading : Reading}
    {trees : List Member}
    (named : (tagged.variants.map fun variant => (variant.name, variant)).lookup name =
      some variant)
    (rest : tagged.split reading (some variant) trees = .ok (some variant, trees))
    (place afterKey after : Position) :
    tagged.split reading none
      (.mk (.ok tagName) afterKey (.string (.ok name) place) after :: trees) =
      .ok (some variant, trees) := by
  have taken : tagged.tag reading (.string (.ok name) place) = .ok variant := by
    simp only [Tagged.tag, Codec.variant, named]
  rw [split, strict, ok_bind, if_pos rfl, taken, ← rest]
  rfl

theorem restores_codec (name : String) {variant : Variant α} {value : α}
    {members : List (String × Value)}
    (named : (tagged.variants.map fun variant => (variant.name, variant)).lookup name =
      some variant)
    (written : tagged.encode value = .object ((tagName, .string name) :: members))
    (restores : variant.Restores levels value members) :
    tagged.codec.Restores (levels + 1) value where
  plain := by
    change (tagged.encode value).Plain (levels + 1)
    rw [written]
    exact ⟨Nat.succ_pos _, trivial, restores.plain⟩
  read reading tree deep shows := by
    change Shows (tagged.encode value).datum tree at shows
    rw [written] at shows
    cases shows with
    | @object _ start stop _ shows =>
      cases shows with
      | @cons _ _ _ afterKey tag after trees spelled shows =>
        cases spelled with
        | @string _ place =>
          obtain ⟨enters, deeper⟩ := Reading.enter_of_deep deep start
          have rest : tagged.split reading.deeper (some variant) trees =
              .ok (some variant, trees) :=
            split_of_shows restores.plain restores.untagged deeper shows _
          change (reading.enter start).bind (fun inner => (tagged.split inner none
            (.mk (.ok tagName) afterKey (.string (.ok name) place) after :: trees)).bind _) = _
          rw [enters, Except.bind, split_of_tag named rest]
          exact restores.read trees shows

end Tagged

theorem Codec.Restores.read_write {α : Type} {codec : Codec α} {levels : Nat} {value : α}
    (restores : codec.Restores levels value) (deep : levels ≤ maxDepth) :
    codec.read (codec.write value) = .ok value := by
  obtain ⟨shows, ended⟩ := shows_of_spells (Value.spells_text restores.plain)
  have decoded := restores.read {} _ deep shows
  unfold Codec.read Codec.write
  dsimp only
  rw [decoded, ok_bind, ended]
  rfl

end InstanceBroker.Json
