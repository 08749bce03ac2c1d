import InstanceBroker.Proofs.Json.Restored

namespace InstanceBroker.Json

def Codec.Yields {α : Type} (codec : Codec α) (P : α → Prop) : Prop :=
  ∀ reading tree value, codec.decode reading tree = .ok value → P value

def Layout.Yields {α : Type} (layout : Layout α) (P : α → Prop) : Prop :=
  ∀ reading missing row value, layout.build reading missing row = .ok value → P value

structure Variant.Yields {α : Type} (variant : Variant α) (P : α → Prop) : Prop where
  ofMembers : ∀ members value, variant.ofMembers members = .ok value → P value
  ofItems : ∀ items value, variant.ofItems items = .ok value → P value

namespace Codec

variable {α β : Type} {codec : Codec α} {P : α → Prop}

theorem yields_any (codec : Codec α) : codec.Yields fun _ => True := fun _ _ _ _ => trivial

theorem yields_natural (expected : String) (most : Nat) :
    (natural expected most).Yields (· ≤ most) := by
  intro reading tree value decoded
  unfold natural at decoded
  dsimp only at decoded
  split at decoded
  · split at decoded
    · rename_i small
      cases decoded
      exact small
    · cases decoded
  · cases decoded
  · cases decoded

theorem forall_of_decodeItems (yields : codec.Yields P) {reading : Reading} {items : List Item}
    {values : List α} (decoded : decodeItems codec reading items = .ok values) :
    ∀ value ∈ values, P value := by
  induction items generalizing values with
  | nil =>
    cases decoded
    exact nofun
  | cons item rest ih =>
    obtain ⟨tree, after⟩ := item
    obtain ⟨first, placed, decoded⟩ := ok_of_bind decoded
    obtain ⟨others, more, same⟩ := ok_of_bind decoded
    cases same
    have good : codec.decode reading tree = .ok first := by
      cases taken : codec.decode reading tree with
      | error => rw [taken] at placed; cases placed
      | ok => rw [taken] at placed; cases placed; rfl
    intro value among
    rcases List.mem_cons.mp among with rfl | among
    · exact yields _ _ _ good
    · exact ih more value among

theorem Yields.list (yields : codec.Yields P) :
    (list codec).Yields fun values => ∀ value ∈ values, P value := by
  intro reading tree values decoded
  cases tree with
  | list start items ending =>
    obtain ⟨inner, -, decoded⟩ := ok_of_bind decoded
    obtain ⟨others, taken, decoded⟩ := ok_of_bind decoded
    obtain ⟨_, -, same⟩ := ok_of_bind decoded
    cases same
    exact forall_of_decodeItems yields taken
  | _ => cases decoded

end Codec

namespace Layout

variable {α β : Type} {layout : Layout α} {P : α → Prop}

theorem yields_any (layout : Layout α) : layout.Yields fun _ => True := fun _ _ _ _ _ => trivial

theorem Yields.field {codec : Codec β} {Q : β → Prop} (first : codec.Yields Q)
    {absent : Option β} (default : ∀ value ∈ absent, Q value) (rest : layout.Yields P)
    (name : String) (isShown : β → Bool) :
    (Layout.field name codec absent isShown layout).Yields
      fun parts => Q parts.1 ∧ P parts.2 := by
  intro reading missing row value built
  unfold build at built
  split at built
  · obtain ⟨_, taken, built⟩ := ok_of_bind built
    obtain ⟨_, more, same⟩ := ok_of_bind built
    cases same
    exact ⟨first _ _ _ taken, rest _ _ _ _ more⟩
  · obtain ⟨_, same, built⟩ := ok_of_bind built
    cases same
    obtain ⟨_, more, same⟩ := ok_of_bind built
    cases same
    exact ⟨default _ rfl, rest _ _ _ _ more⟩
  · cases built

theorem Yields.required {codec : Codec β} {Q : β → Prop} (first : codec.Yields Q)
    (rest : layout.Yields P) (name : String) :
    (Layout.required name codec layout).Yields fun parts => Q parts.1 ∧ P parts.2 :=
  Yields.field first (fun _ absent => absurd absent (Option.not_mem_none _)) rest name _

theorem row_of_buildMembers {reading : Reading} {members : List Member} {ending : Ending}
    {value : α} (built : layout.buildMembers reading members ending = .ok value) :
    ∃ row missing, layout.scan reading [] members = .ok row ∧
      layout.build reading missing row = .ok value := by
  obtain ⟨row, scanned, built⟩ := ok_of_bind built
  dsimp only at built
  split at built
  · obtain ⟨_, -, built⟩ := ok_of_bind built
    exact ⟨row, _, scanned, built⟩
  · exact ⟨row, _, scanned, built⟩

theorem eq_of_counted {buffered overlong : Prop} [Decidable buffered] [Decidable overlong]
    {first value : α} {one other : Problem} {ended : Result Unit}
    (done : (if buffered then
        if overlong then throw one >>= fun () => pure first else pure first
      else if overlong then throw other >>= fun () => pure first
      else ended >>= fun () => pure first) = Except.ok value) : first = value := by
  split at done
  · split at done
    · cases done
    · cases done
      rfl
  · split at done
    · cases done
    · obtain ⟨_, -, same⟩ := ok_of_bind done
      cases same
      rfl

theorem row_of_buildItems {reading : Reading} {expected : String} {items : List Item}
    {ending : Ending} {value : α}
    (built : layout.buildItems reading expected items ending = .ok value) :
    ∃ row missing, layout.build reading missing row = .ok value := by
  obtain ⟨row, -, built⟩ := ok_of_bind built
  dsimp only at built
  split at built
  · obtain ⟨_, -, built⟩ := ok_of_bind built
    obtain ⟨first, taken, built⟩ := ok_of_bind built
    exact ⟨row, _, taken.trans (congrArg Except.ok (eq_of_counted built))⟩
  · obtain ⟨first, taken, built⟩ := ok_of_bind built
    exact ⟨row, _, taken.trans (congrArg Except.ok (eq_of_counted built))⟩

theorem Yields.codec (yields : layout.Yields P) (expected : String) {make : α → β}
    {parts : β → α} {Q : β → Prop} (imp : ∀ value, P value → Q (make value)) :
    (layout.codec expected make parts).Yields Q := by
  intro reading tree value decoded
  obtain ⟨before, taken, rfl⟩ := ok_of_map decoded
  refine imp before ?_
  cases tree with
  | object start members ending =>
    obtain ⟨inner, -, built⟩ := ok_of_bind taken
    obtain ⟨row, missing, -, built⟩ := row_of_buildMembers built
    exact yields _ _ _ _ built
  | list start items ending =>
    obtain ⟨inner, -, built⟩ := ok_of_bind taken
    obtain ⟨row, missing, built⟩ := row_of_buildItems built
    exact yields _ _ _ _ built
  | _ => cases taken

end Layout

namespace Variant

variable {α β : Type}

theorem yields_record (name expected : String) {layout : Layout β} {P : β → Prop}
    (yields : layout.Yields P) {make : β → α} {Q : α → Prop}
    (imp : ∀ value, P value → Q (make value)) (parts? : α → Option β) :
    (record name expected layout make parts?).Yields Q where
  ofMembers members value made := by
    obtain ⟨parts, built, rfl⟩ := ok_of_map made
    obtain ⟨row, missing, -, built⟩ := Layout.row_of_buildMembers built
    exact imp parts (yields _ _ _ _ built)
  ofItems items value made := by
    obtain ⟨parts, built, rfl⟩ := ok_of_map made
    obtain ⟨row, missing, built⟩ := Layout.row_of_buildItems built
    exact imp parts (yields _ _ _ _ built)

theorem yields_plain [DecidableEq α] (name : String) {value : α} {P : α → Prop}
    (holds : P value) : (plain name value).Yields P where
  ofMembers members other made := by
    cases made
    exact holds
  ofItems items other made := by
    unfold plain at made
    dsimp only at made
    split at made
    · cases made
      exact holds
    · cases made

end Variant

namespace Tagged

variable {α : Type} {tagged : Tagged α} {reading : Reading}

theorem mem_of_tag {tree : Tree} {variant : Variant α}
    (taken : tagged.tag reading tree = .ok variant) : variant ∈ tagged.variants := by
  unfold Tagged.tag Codec.variant at taken
  split at taken
  · split at taken
    · rename_i found
      cases taken
      obtain ⟨before, after, listed, -⟩ := List.lookup_eq_some_iff.mp found
      have among : (_, variant) ∈ tagged.variants.map fun variant => (variant.name, variant) :=
        listed ▸ List.mem_append_right before List.mem_cons_self
      obtain ⟨_, there, same⟩ := List.mem_map.mp among
      cases same
      exact there
    · cases taken
  · cases taken

theorem mem_of_split {members others : List Member} {found : Option (Variant α)}
    {variant : Variant α} (among : ∀ variant ∈ found, variant ∈ tagged.variants)
    (taken : tagged.split reading found members = .ok (some variant, others)) :
    variant ∈ tagged.variants := by
  induction members generalizing found others with
  | nil =>
    cases taken
    exact among _ rfl
  | cons member rest ih =>
    obtain ⟨key, afterKey, value, afterValue⟩ := member
    unfold split at taken
    obtain ⟨name, -, taken⟩ := ok_of_bind taken
    split at taken
    · split at taken
      · cases taken
      · obtain ⟨variant, told, taken⟩ := ok_of_bind taken
        exact ih (fun other same => by cases same; exact mem_of_tag told) taken
    · obtain ⟨_, -, taken⟩ := ok_of_bind taken
      obtain ⟨⟨last, rest⟩, more, same⟩ := ok_of_bind taken
      cases same
      exact ih among more

theorem yields_codec {P : α → Prop}
    (each : ∀ variant ∈ tagged.variants, variant.Yields P) : tagged.codec.Yields P := by
  intro reading tree value decoded
  cases tree with
  | object start members ending =>
    obtain ⟨inner, -, decoded⟩ := ok_of_bind decoded
    obtain ⟨⟨found, others⟩, taken, decoded⟩ := ok_of_bind decoded
    obtain ⟨_, -, decoded⟩ := ok_of_bind decoded
    split at decoded
    · rename_i variant _
      have none_found : ∀ variant ∈ (none : Option (Variant α)), variant ∈ tagged.variants :=
        fun _ absent => absurd absent (Option.not_mem_none _)
      exact (each variant (mem_of_split none_found taken)).ofMembers _ _ decoded
    · cases decoded
    · cases decoded
  | list start items ending =>
    obtain ⟨inner, -, decoded⟩ := ok_of_bind decoded
    cases items with
    | nil =>
      obtain ⟨_, -, decoded⟩ := ok_of_bind decoded
      cases decoded
    | cons item rest =>
      obtain ⟨first, after⟩ := item
      obtain ⟨variant, told, decoded⟩ := ok_of_bind decoded
      obtain ⟨_, -, decoded⟩ := ok_of_bind decoded
      obtain ⟨_, -, decoded⟩ := ok_of_bind decoded
      exact (each variant (mem_of_tag told)).ofItems _ _ decoded
  | _ => cases decoded

end Tagged

theorem Codec.Yields.of_read {α : Type} {codec : Codec α} {P : α → Prop}
    (yields : codec.Yields P)
    {text : String} {value : α} (read : codec.read text = .ok value) : P value := by
  obtain ⟨first, decoded, done⟩ := ok_of_bind read
  split at done
  · cases done
  · cases done
    exact yields _ _ _ decoded

/-- Reading takes writing back, so that no two values share a text; and what was read from any text
is written in one way only. The values have the one property wherever they were read, and the other
is asked of them. -/
structure Codec.RoundTrips {α : Type} (codec : Codec α) (known asked : α → Prop) : Prop where
  restored : ∀ value, known value → asked value → codec.read (codec.write value) = .ok value
  distinct : ∀ first second, known first → asked first → known second → asked second →
    codec.write first = codec.write second → first = second
  canonical : ∀ text value, codec.read text = .ok value → asked value →
    (codec.read (codec.write value)).map codec.write = .ok (codec.write value)

theorem Codec.roundTrips {α : Type} {codec : Codec α} {known asked : α → Prop} {levels : Nat}
    (restores : ∀ value, known value → asked value → codec.Restores levels value)
    (deep : levels ≤ maxDepth) (yields : codec.Yields known) : codec.RoundTrips known asked := by
  have restored (value : α) (knows : known value) (asks : asked value) :
      codec.read (codec.write value) = .ok value := (restores value knows asks).read_write deep
  refine ⟨restored, fun first second knows asks knows' asks' same => ?_,
    fun text value read asks => ?_⟩
  · have one := restored first knows asks
    rw [same, restored second knows' asks'] at one
    exact (Except.ok.inj one).symm
  · rw [restored value (yields.of_read read) asks]
    rfl

end InstanceBroker.Json
