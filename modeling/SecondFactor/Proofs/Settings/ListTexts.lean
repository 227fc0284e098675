import SecondFactor.Proofs.Json.Outermost
import SecondFactor.Proofs.Settings.Hosts
import SecondFactor.Proofs.Text.Trimming

/-!
# What a text stands for as a list

A text spells a row of items: between commas there is an item with blanks around it, or there are
blanks alone. Every text spells exactly one row, which is what it is read as. Square brackets around
a text change nothing unless they make it JSON, and then it stands for the array it is. Where the
excluded groups come as a text, those that it stands for are the ones that need no second factor.
-/
namespace SecondFactor.Settings

open Text (FreeEnds Framed)

/-! ## Rows of items -/

/-- An item that commas and blanks can set apart from others. -/
structure Item (cs : List Char) : Prop where
  ne_nil : cs ≠ []
  noComma : ',' ∉ cs
  trimmed : FreeEnds Text.isBlank cs

/-- What stands between two commas: blanks alone, or an item with blanks around it. -/
inductive Piece : List (List Char) → List Char → Prop
  | blank {blanks : List Char} (h : ∀ c ∈ blanks, Text.isBlank c = true) : Piece [] blanks
  | item {item cs : List Char} (wf : Item item) (framed : Framed Text.isBlank item cs) :
      Piece [item] cs

/-- A text spells a row of items with a comma between any two pieces. -/
inductive Spells : List (List Char) → List Char → Prop
  | last {row : List (List Char)} {cs : List Char} (h : Piece row cs) : Spells row cs
  | cons {row items : List (List Char)} {cs rest : List Char} (h : Piece row cs)
      (hrest : Spells items rest) : Spells (row ++ items) (cs ++ ',' :: rest)

variable {row items : List (List Char)} {cs item : List Char}

theorem not_isBlank_comma : Text.isBlank ',' = false := by decide

theorem not_mem_comma_of_blank (h : ∀ c ∈ cs, Text.isBlank c = true) : ',' ∉ cs := fun hcomma =>
  Bool.false_ne_true (not_isBlank_comma.symm.trans (h ',' hcomma))

theorem Piece.noComma (h : Piece row cs) : ',' ∉ cs := by
  cases h with
  | blank h => exact not_mem_comma_of_blank h
  | item wf framed =>
    obtain ⟨before, after, hbefore, hafter⟩ := framed
    simp [wf.noComma, not_mem_comma_of_blank hbefore, not_mem_comma_of_blank hafter]

theorem commaItems_append (cs rest : List Char) :
    commaItems (cs ++ ',' :: rest) = commaItems cs ++ commaItems rest := by
  simp [commaItems, List.splitOn_append_cons_self]

theorem commaItems_of_noComma (h : ',' ∉ cs) :
    commaItems cs = [Text.trimWhile Text.isBlank cs].filter (!·.isEmpty) := by
  rw [commaItems, List.splitOn_eq_singleton h, List.map_singleton]

theorem Piece.commaItems_eq (h : Piece row cs) : commaItems cs = row := by
  rw [commaItems_of_noComma h.noComma]
  cases h with
  | blank h => simp [(Text.framed_nil_iff.2 h).trimWhile_eq (.of_forall (by simp))]
  | item wf framed => simp [framed.trimWhile_eq wf.trimmed, wf.ne_nil]

theorem piece_commaItems (h : ',' ∉ cs) : Piece (commaItems cs) cs := by
  rw [commaItems_of_noComma h]
  have hframed := Text.framed_trimWhile Text.isBlank cs
  have hfree := Text.freeEnds_trimWhile Text.isBlank cs
  generalize Text.trimWhile Text.isBlank cs = core at hframed hfree
  cases core with
  | nil => exact .blank (Text.framed_nil_iff.1 hframed)
  | cons c rest =>
    refine .item ⟨List.cons_ne_nil c rest, fun hcomma => h ?_, hfree⟩ hframed
    obtain ⟨before, after, -, -⟩ := hframed
    exact List.mem_append_left _ (List.mem_append_right _ hcomma)

theorem Spells.commaItems_eq (h : Spells items cs) : commaItems cs = items := by
  induction h with
  | last h => exact h.commaItems_eq
  | cons h _ ih => rw [commaItems_append, h.commaItems_eq, ih]

theorem spells_commaItems (cs : List Char) : Spells (commaItems cs) cs := by
  -- By recursion on what follows the first comma.
  by_cases h : ',' ∈ cs
  · obtain ⟨first, rest, hcs, hfirst⟩ := List.eq_append_cons_of_mem h
    rw [hcs, commaItems_append]
    exact .cons (piece_commaItems hfirst) (spells_commaItems rest)
  · exact .last (piece_commaItems h)
termination_by cs.length
decreasing_by simp [hcs]; omega

/-- Every text spells one row of items, the one between its commas. -/
theorem spells_iff : Spells items cs ↔ commaItems cs = items :=
  ⟨Spells.commaItems_eq, fun h => h ▸ spells_commaItems cs⟩

theorem Piece.framed {core : List Char} (h : Piece row core)
    (framed : Framed Text.isBlank core cs) : Piece row cs := by
  cases h with
  | blank h => exact .blank (Text.framed_nil_iff.1 ((Text.framed_nil_iff.2 h).trans framed))
  | item wf inner => exact .item wf (inner.trans framed)

/-- Blanks around a text do not change what it spells. -/
theorem Spells.framed {core : List Char} (h : Spells items core)
    (framed : Framed Text.isBlank core cs) : Spells items cs := by
  obtain ⟨before, after, hbefore, hafter⟩ := framed
  induction h generalizing before with
  | last h => exact .last (h.framed (.intro before after hbefore hafter))
  | cons h _ ih =>
    -- The blanks in front go to the first piece, and those behind to the last one.
    have hfirst := h.framed (.intro before [] hbefore (by simp))
    have hcons := Spells.cons hfirst (ih [] (by simp))
    simpa using hcons

theorem commaItems_trim (cs : List Char) :
    commaItems (Text.trimWhile Text.isBlank cs) = commaItems cs := by
  have hspells := (spells_commaItems (Text.trimWhile Text.isBlank cs)).framed
    (Text.framed_trimWhile Text.isBlank cs)
  exact hspells.commaItems_eq.symm

theorem Spells.trim (h : Spells items cs) : Spells items (Text.trimWhile Text.isBlank cs) :=
  spells_iff.2 ((commaItems_trim cs).trans h.commaItems_eq)

theorem Piece.item_of_mem (h : Piece row cs) (hitem : item ∈ row) : Item item := by
  cases h with
  | blank h => cases hitem
  | item wf _ => exact List.mem_singleton.1 hitem ▸ wf

theorem Spells.item_of_mem (h : Spells items cs) (hitem : item ∈ items) : Item item := by
  induction h with
  | last h => exact h.item_of_mem hitem
  | cons h _ ih => exact (List.mem_append.1 hitem).elim h.item_of_mem ih

/-! ## Brackets -/

theorem not_isBracket_of_blank {c : Char} (h : Text.isBlank c = true) : isBracket c = false := by
  refine Bool.eq_false_iff.2 fun hbracket => ?_
  rw [isBracket, Bool.or_eq_true, beq_iff_eq, beq_iff_eq] at hbracket
  rcases hbracket with rfl | rfl <;> exact absurd h (by decide)

theorem freeEnds_of_blank (h : ∀ c ∈ cs, Text.isBlank c = true) : FreeEnds isBracket cs :=
  .of_forall fun c hc => not_isBracket_of_blank (h c hc)

theorem Piece.freeEnds (h : Piece row cs) (hrow : ∀ item ∈ row, FreeEnds isBracket item) :
    FreeEnds isBracket cs := by
  cases h with
  | blank h => exact freeEnds_of_blank h
  | @item item _ wf framed =>
    obtain ⟨before, after, hbefore, hafter⟩ := framed
    exact ((freeEnds_of_blank hbefore).append (hrow item (List.mem_singleton_self item))).append
      (freeEnds_of_blank hafter)

/-- A text has a bracket at an end only if one of its items has. -/
theorem Spells.freeEnds (h : Spells items cs) (hitems : ∀ item ∈ items, FreeEnds isBracket item) :
    FreeEnds isBracket cs := by
  induction h with
  | last h => exact h.freeEnds hitems
  | @cons row items cs rest h _ ih =>
    rw [List.forall_mem_append] at hitems
    have hcomma : FreeEnds isBracket [','] := .of_forall (by simp [isBracket])
    have hends := (h.freeEnds hitems.1).append (hcomma.append (ih hitems.2))
    simpa using hends

/-- A text in square brackets. -/
def bracketed (s : String) : String := "[" ++ s ++ "]"

theorem toList_bracketed (s : String) : (bracketed s).toList = ['['] ++ s.toList ++ [']'] := by
  simp [bracketed]

theorem trim_bracketed (s : String) : Text.trim (bracketed s) = bracketed s := by
  have hopen : Text.isBlank '[' = false := by decide
  have hclose : Text.isBlank ']' = false := by decide
  have hfree : FreeEnds Text.isBlank (bracketed s).toList := by
    rw [toList_bracketed]
    exact ⟨by simp [hopen], by rw [List.getLast?_concat]; simp [hclose]⟩
  rw [Text.trim, Text.trimWhile_of_freeEnds hfree, String.ofList_toList]

theorem trimWhile_bracketed {s : String} (h : FreeEnds isBracket s.toList) :
    Text.trimWhile isBracket (bracketed s).toList = s.toList := by
  rw [toList_bracketed]
  have hframed : Framed isBracket s.toList (['['] ++ s.toList ++ [']']) :=
    .intro _ _ (by simp [isBracket]) (by simp [isBracket])
  exact hframed.trimWhile_eq h

/-! ## Reading a text as a list -/

/-- A text has a square bracket in front, behind blanks at most. -/
def Opens (s : String) : Prop := (Text.trim s).toList.head? = some '['

/-- A text is not JSON, as its grammar goes or because of a number with too many digits. -/
def NoJson (depth : Nat) (s : String) : Prop :=
  Json.read depth s = .error .malformed ∨ Json.read depth s = .error .numberTooLong

variable {s : String}

theorem opens_iff : Opens s ↔ (Text.trimWhile Text.isBlank s.toList).head? = some '[' := by
  rw [Opens, Text.trim, String.toList_ofList]

theorem opens_bracketed (s : String) : Opens (bracketed s) := by
  rw [Opens, trim_bracketed, toList_bracketed]
  rfl

theorem not_opens_of_spells (h : Spells items s.toList)
    (hitems : ∀ item ∈ items, FreeEnds isBracket item) : ¬ Opens s := by
  intro hopens
  have hfirst := (h.trim.freeEnds hitems).first '[' (opens_iff.1 hopens)
  exact absurd hfirst (by decide)

theorem listOfText_of_not_opens (depth : Nat) (h : ¬ Opens s) :
    listOfText depth s = .ok (itemValues s.toList) := by
  rw [opens_iff] at h
  simp only [listOfText, if_neg h, itemValues, commaItems_trim]

variable {depth : Nat}

theorem listOfText_of_json (h : Opens s) {j : Json}
    (hread : Json.read depth (Text.trim s) = .ok j) :
    ∃ items, j = .list items ∧ listOfText depth s = .ok items := by
  obtain ⟨items, rfl⟩ := Json.list_of_read h hread
  rw [opens_iff] at h
  rw [Text.trim] at hread
  exact ⟨items, rfl, by simp only [listOfText, if_pos h, hread]⟩

theorem listOfText_of_noJson (h : Opens s) (hread : NoJson depth (Text.trim s)) :
    listOfText depth s = .ok (itemValues (Text.trimWhile isBracket (Text.trim s).toList)) := by
  rw [opens_iff] at h
  rw [NoJson, Text.trim] at hread
  rw [Text.trim, String.toList_ofList]
  rcases hread with hread | hread <;> simp only [listOfText, if_pos h, hread]

theorem itemValues_eq {items : List String} (h : Spells (items.map String.toList) cs) :
    itemValues cs = items.map .text := by
  rw [itemValues, h.commaItems_eq, List.map_map]
  exact List.map_congr_left fun item _ => congrArg Json.text String.ofList_toList

theorem itemValues_wellFormed (cs : List Char) :
    ∃ items : List String, itemValues cs = items.map .text ∧ ∀ item ∈ items, Item item.toList := by
  refine ⟨(commaItems cs).map String.ofList, by rw [itemValues, List.map_map]; rfl, ?_⟩
  intro item hitem
  obtain ⟨chars, hchars, rfl⟩ := List.mem_map.1 hitem
  rw [String.toList_ofList]
  exact (spells_commaItems cs).item_of_mem hchars

theorem expandListText_text {items : List Json} (h : listOfText depth s = .ok items) :
    expandListText depth (.text s) = .ok (.list items) := by
  rw [expandListText, h]
  rfl

/-- A text that spells items without brackets at their ends is read as those items. In square
brackets it is still read so where that is no JSON, and where it is, as the array that JSON makes of
it. Any text that is not taken for JSON is read as items that are not empty, hold no comma and have
no blanks at their ends. -/
theorem list_of_text (depth : Nat) :
    (∀ (items : List String) (s : String), Spells (items.map String.toList) s.toList →
      (∀ item ∈ items, FreeEnds isBracket item.toList) →
      expandListText depth (.text s) = .ok (.list (items.map .text)) ∧
      (NoJson depth (bracketed s) →
        expandListText depth (.text (bracketed s)) = .ok (.list (items.map .text))) ∧
      ∀ j, Json.read depth (bracketed s) = .ok j →
        expandListText depth (.text (bracketed s)) = .ok j ∧ ∃ decoded, j = .list decoded) ∧
    ∀ s : String, (Opens s → NoJson depth (Text.trim s)) →
      ∃ items : List String, expandListText depth (.text s) = .ok (.list (items.map .text)) ∧
        ∀ item ∈ items, Item item.toList := by
  constructor
  · intro items s spelled hitems
    have hfree : ∀ item ∈ items.map String.toList, FreeEnds isBracket item := by simpa using hitems
    refine ⟨?_, fun noJson => ?_, fun j hread => ?_⟩
    · have hplain := listOfText_of_not_opens depth (not_opens_of_spells spelled hfree)
      rw [itemValues_eq spelled] at hplain
      exact expandListText_text hplain
    · rw [← trim_bracketed] at noJson
      have hstripped := listOfText_of_noJson (opens_bracketed s) noJson
      rw [trim_bracketed, trimWhile_bracketed (spelled.freeEnds hfree),
        itemValues_eq spelled] at hstripped
      exact expandListText_text hstripped
    · rw [← trim_bracketed] at hread
      obtain ⟨decoded, rfl, hlist⟩ := listOfText_of_json (opens_bracketed s) hread
      exact ⟨expandListText_text hlist, decoded, rfl⟩
  · intro s noJson
    have hchars : ∃ chars, listOfText depth s = .ok (itemValues chars) := by
      by_cases hopens : Opens s
      · exact ⟨_, listOfText_of_noJson hopens (noJson hopens)⟩
      · exact ⟨_, listOfText_of_not_opens depth hopens⟩
    obtain ⟨chars, hlist⟩ := hchars
    obtain ⟨items, hvalues, hitems⟩ := itemValues_wellFormed chars
    exact ⟨items, expandListText_text (hvalues ▸ hlist), hitems⟩

theorem list_of_text_groups :
    Spells ["admins".toList, "ops".toList] " admins,, ops ".toList ∧
      NoJson Json.usualDepth (bracketed " admins,, ops ") ∧
      expandListText Json.usualDepth (.text (bracketed " admins,, ops ")) =
        .ok (.list [.text "admins", .text "ops"]) ∧
      Json.read Json.usualDepth (bracketed "1, 2") = .ok (.list [.int 1, .int 2]) ∧
      expandListText Json.usualDepth (.text (bracketed "1, 2")) = .ok (.list [.int 1, .int 2]) ∧
      ∃ items : List String, expandListText Json.usualDepth (.text "[admins, ops]") =
        .ok (.list (items.map .text)) ∧ ∀ item ∈ items, Item item.toList := by
  have hgroups : Spells ["admins".toList, "ops".toList] " admins,, ops ".toList :=
    spells_iff.2 (by decide +kernel)
  have hnumbers : Spells ["1".toList, "2".toList] "1, 2".toList := spells_iff.2 (by decide +kernel)
  have hbare : ∀ item ∈ ["admins", "ops", "1", "2"], FreeEnds isBracket item.toList := by
    simpa using ⟨.of_forall (by simp [isBracket]), .of_forall (by simp [isBracket]),
      .of_forall (by simp [isBracket]), .of_forall (by simp [isBracket])⟩
  have hgroupsJson : NoJson Json.usualDepth (bracketed " admins,, ops ") := .inl rfl
  have hnumbersJson :
      Json.read Json.usualDepth (bracketed "1, 2") = .ok (.list [.int 1, .int 2]) := rfl
  obtain ⟨-, hstripped, -⟩ := (list_of_text Json.usualDepth).1 ["admins", "ops"] _ hgroups
    fun item hitem => hbare item (List.mem_append_left _ hitem)
  obtain ⟨-, -, hdecoded⟩ := (list_of_text Json.usualDepth).1 ["1", "2"] _ hnumbers
    fun item hitem => hbare item (List.mem_append_right ["admins", "ops"] hitem)
  exact ⟨hgroups, hgroupsJson, hstripped hgroupsJson, hnumbersJson, (hdecoded _ hnumbersJson).1,
    (list_of_text Json.usualDepth).2 "[admins, ops]" fun _ => .inl rfl⟩

/-! ## Excluded groups -/

theorem check_groups (groups : List String) :
    check .excludedGroups (some (.list (groups.map .text))) = .valid groups := by
  have hitems (n : Nat) :
      Checked.ofItems .excludedGroups asText (groups.map .text) n = .valid groups := by
    induction groups generalizing n with
    | nil => rfl
    | cons group groups ih =>
      rw [List.map_cons, Checked.ofItems, ih (n + 1)]
      rfl
  exact hitems 0

/-- Settings exclude the groups for which the winning text stands. -/
theorem excludedGroups_of_text {given : List (String × Json)} {env : Environment}
    {origin : SettingsOrigin} {groups : List String} {settings : Settings} (h : Plain given)
    (hraw : plainValue given env .excludedGroups = some (.text s))
    (hlist : listOfText env.depth s = .ok (groups.map .text))
    (hs : loaded origin (load given env) = .ok settings) : settings.excludedGroups = groups := by
  obtain ⟨value, hread, hcheck⟩ := contents_of_loaded h hs
  have htext := hread .excludedGroups
  rw [hraw] at htext
  have hvalue := htext.unique (.list rfl hlist)
  have hgroups := hcheck .excludedGroups
  rw [hvalue, check_groups] at hgroups
  exact (Checked.valid.inj hgroups).symm

end SecondFactor.Settings
