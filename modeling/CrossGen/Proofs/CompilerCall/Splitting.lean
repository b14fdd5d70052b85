import CrossGen.CompilerCall
import CrossGen.Proofs.Text.Fields

/-!
# Splitting further arguments

Both ways to split a text into arguments undo joining them with spaces.  At every single space a text
is split into the one list of tokens without spaces that is joined to it.  Between any number of
spaces it is split into the tokens that are not empty, and exactly the texts that hold these tokens
with one or more spaces between each two, and with any number in front and behind, are split alike.
-/

namespace CrossGen.SplitMode

/-! ## Tokens and spaces -/

/-- A token as an argument is written: it is not empty and holds no space. -/
structure Solid (token : String) : Prop where
  ne_empty : token ≠ ""
  space_notMem : ' ' ∉ token.toList

def spaces (count : Nat) : String :=
  String.ofList (List.replicate count ' ')

/-- The text of tokens that are joined with spaces, to which further spaces are added: `lead` in front
of all of them, and behind each token as many as are given with it. -/
def spread (lead : Nat) (parts : List (String × Nat)) : String :=
  spaces lead ++ Text.joinFields ' ' (parts.map fun part => part.1 ++ spaces part.2)

theorem spaces_zero : spaces 0 = "" :=
  rfl

theorem spaces_succ (count : Nat) : spaces (count + 1) = " " ++ spaces count := by
  apply String.toList_inj.mp
  simp [spaces, List.replicate_succ]

theorem spaces_append_space (count : Nat) : spaces count ++ " " = " " ++ spaces count := by
  have hlast : spaces (count + 1) = spaces count ++ " " := by
    apply String.toList_inj.mp
    simp [spaces, List.replicate_succ']
  rw [← hlast, spaces_succ]

theorem spread_nil (lead : Nat) : spread lead [] = spaces lead :=
  String.append_empty

theorem spread_singleton (lead : Nat) (part : String × Nat) :
    spread lead [part] = spaces lead ++ (part.1 ++ spaces part.2) := by
  rw [spread, List.map_singleton, Text.joinFields_singleton]

theorem spread_cons_cons (lead : Nat) (part next : String × Nat) (rest : List (String × Nat)) :
    spread lead (part :: next :: rest) =
      spaces lead ++ (part.1 ++ spaces part.2) ++ " " ++ spread 0 (next :: rest) := by
  have hjoin := Text.joinFields_cons_cons ' ' (part.1 ++ spaces part.2) (next.1 ++ spaces next.2)
    (rest.map fun part => part.1 ++ spaces part.2)
  have hspace : String.singleton ' ' = " " := rfl
  rw [spread, spread, spaces_zero, String.empty_append, List.map_cons, List.map_cons, hjoin, hspace]
  simp only [String.append_assoc]

theorem spread_eq (lead : Nat) (parts : List (String × Nat)) :
    spread lead parts = spaces lead ++ spread 0 parts := by
  rw [spread, spread, spaces_zero, String.empty_append]

theorem spread_zero (tokens : List String) :
    spread 0 (tokens.map fun token => (token, 0)) = Text.joinFields ' ' tokens := by
  have hparts : (tokens.map fun token => (token, 0)).map
      (fun part : String × Nat => part.1 ++ spaces part.2) = tokens := by
    rw [List.map_map]
    conv_rhs => rw [← List.map_id tokens]
    apply List.map_congr_left
    intro token _
    exact String.append_empty
  rw [spread, hparts, spaces_zero, String.empty_append]

/-! ## At every single space -/

theorem split_none (mode : SplitMode) : mode.split none = mode.split (some "") := by
  cases mode <;> rfl

/-- The tokens at single spaces are those without spaces that are joined to the text. -/
theorem split_legacy_eq_iff {text : String} {tokens : List String} :
    legacy.split (some text) = tokens ↔
      tokens ≠ [] ∧ (∀ token ∈ tokens, ' ' ∉ token.toList) ∧ Text.joinFields ' ' tokens = text :=
  Text.fields_eq_iff

theorem length_split_legacy (text : String) :
    (legacy.split (some text)).length = text.toList.count ' ' + 1 :=
  Text.length_fields ' ' text

theorem split_strict (text : String) :
    strict.split (some text) = (legacy.split (some text)).filter fun token => token ≠ "" := by
  have hsplit : strict.split (some text) =
      (legacy.split (some text)).filter fun token => !token.isEmpty := rfl
  rw [hsplit]
  apply List.filter_congr
  intro token _
  by_cases hempty : token = ""
  · rw [hempty]
    rfl
  · simp [hempty]

/-! ## Between any number of spaces -/

theorem split_strict_append (before after : String) :
    strict.split (some (before ++ " " ++ after)) =
      strict.split (some before) ++ strict.split (some after) := by
  have hfields : legacy.split (some (before ++ " " ++ after)) =
      legacy.split (some before) ++ legacy.split (some after) := Text.fields_append ' ' before after
  rw [split_strict, hfields, List.filter_append, ← split_strict, ← split_strict]

theorem split_strict_empty : strict.split (some "") = [] := by
  decide

theorem split_strict_spaces_append (count : Nat) (text : String) :
    strict.split (some (spaces count ++ text)) = strict.split (some text) := by
  induction count with
  | zero => rw [spaces_zero, String.empty_append]
  | succ count ih =>
      have hfront : spaces (count + 1) ++ text = "" ++ " " ++ (spaces count ++ text) := by
        rw [spaces_succ, String.empty_append, String.append_assoc]
      rw [hfront, split_strict_append, split_strict_empty, List.nil_append, ih]

theorem split_strict_append_spaces (text : String) (count : Nat) :
    strict.split (some (text ++ spaces count)) = strict.split (some text) := by
  cases count with
  | zero => rw [spaces_zero, String.append_empty]
  | succ count =>
      have hspaces : strict.split (some (spaces count)) = [] := by
        have hfront := split_strict_spaces_append count ""
        rwa [String.append_empty, split_strict_empty] at hfront
      rw [spaces_succ, ← String.append_assoc, split_strict_append, hspaces, List.append_nil]

theorem split_strict_of_solid {token : String} (h : Solid token) :
    strict.split (some token) = [token] := by
  have hlegacy : legacy.split (some token) = [token] := by
    apply split_legacy_eq_iff.mpr
    refine ⟨List.cons_ne_nil _ _, ?_, Text.joinFields_singleton ' ' token⟩
    intro other hother
    rw [List.mem_singleton.mp hother]
    exact h.space_notMem
  rw [split_strict, hlegacy]
  simp [h.ne_empty]

/-- However many spaces are added, the tokens are found again. -/
theorem split_strict_spread
    (lead : Nat) {parts : List (String × Nat)} (h : ∀ part ∈ parts, Solid part.1) :
    strict.split (some (spread lead parts)) = parts.map Prod.fst := by
  induction parts generalizing lead with
  | nil =>
      have hspaces := split_strict_spaces_append lead ""
      rwa [String.append_empty, split_strict_empty, ← spread_nil lead] at hspaces
  | cons part rest ih =>
      obtain ⟨hpart, hrest⟩ := List.forall_mem_cons.mp h
      have htoken : strict.split (some (spaces lead ++ (part.1 ++ spaces part.2))) = [part.1] := by
        rw [split_strict_spaces_append, split_strict_append_spaces, split_strict_of_solid hpart]
      cases rest with
      | nil => rw [spread_singleton, htoken, List.map_singleton]
      | cons next others =>
          rw [spread_cons_cons, split_strict_append, htoken, ih 0 hrest]
          rfl

/-- Whatever tokens are joined, the empty ones among them are no more than further spaces around
the others. -/
theorem exists_spread (tokens : List String) :
    ∃ lead parts, spread lead parts = Text.joinFields ' ' tokens ∧
      parts.map Prod.fst = tokens.filter fun token => token ≠ "" := by
  induction tokens with
  | nil => exact ⟨0, [], rfl, rfl⟩
  | cons token rest ih =>
      obtain ⟨lead, parts, htext, htokens⟩ := ih
      cases rest with
      | nil =>
          by_cases hempty : token = ""
          · exact ⟨0, [], by rw [hempty]; rfl, by rw [hempty]; rfl⟩
          · exact ⟨0, [(token, 0)], spread_zero [token], by simp [hempty]⟩
      | cons next others =>
          have hjoin : Text.joinFields ' ' (token :: next :: others) =
              token ++ " " ++ spread lead parts := by
            rw [htext]
            exact Text.joinFields_cons_cons ' ' token next others
          rw [hjoin]
          by_cases hempty : token = ""
          · refine ⟨lead + 1, parts, ?_, ?_⟩
            · rw [spread_eq, spread_eq lead, hempty, spaces_succ, String.empty_append,
                String.append_assoc]
            · rw [htokens, hempty]
              rfl
          -- The spaces in front of the next token stand behind this one.
          · have hfilter : (token :: next :: others).filter (fun token => token ≠ "") =
                token :: parts.map Prod.fst := by
              rw [List.filter_cons_of_pos (by simpa using hempty), htokens]
            rw [hfilter]
            cases parts with
            | nil =>
                refine ⟨0, [(token, lead + 1)], ?_, rfl⟩
                rw [spread_singleton, spread_nil, spaces_succ, spaces_zero, String.empty_append,
                  String.append_assoc]
            | cons part parts =>
                refine ⟨0, (token, lead) :: part :: parts, ?_, rfl⟩
                rw [spread_cons_cons, spread_eq lead, spaces_zero, String.empty_append]
                calc
                  token ++ spaces lead ++ " " ++ spread 0 (part :: parts) =
                      token ++ (spaces lead ++ " ") ++ spread 0 (part :: parts) := by
                    simp only [String.append_assoc]
                  _ = token ++ (" " ++ spaces lead) ++ spread 0 (part :: parts) := by
                    rw [spaces_append_space]
                  _ = token ++ " " ++ (spaces lead ++ spread 0 (part :: parts)) := by
                    simp only [String.append_assoc]

/-- The texts that are split into the given tokens are those that hold them among spaces. -/
theorem split_strict_eq_iff {text : String} {tokens : List String} :
    strict.split (some text) = tokens ↔
      (∀ token ∈ tokens, Solid token) ∧
        ∃ lead parts, parts.map Prod.fst = tokens ∧ spread lead parts = text := by
  constructor
  · rintro rfl
    obtain ⟨-, hspaces, hjoin⟩ := split_legacy_eq_iff.mp (Eq.refl (legacy.split (some text)))
    rw [split_strict]
    constructor
    · intro token htoken
      obtain ⟨hmem, hempty⟩ := List.mem_filter.mp htoken
      exact ⟨of_decide_eq_true hempty, hspaces token hmem⟩
    · obtain ⟨lead, parts, htext, htokens⟩ := exists_spread (legacy.split (some text))
      exact ⟨lead, parts, htokens, htext.trans hjoin⟩
  · rintro ⟨hsolid, lead, parts, rfl, rfl⟩
    apply split_strict_spread
    intro part hpart
    exact hsolid part.1 (List.mem_map_of_mem hpart)

theorem split_strict_joinFields {tokens : List String} (h : ∀ token ∈ tokens, Solid token) :
    strict.split (some (Text.joinFields ' ' tokens)) = tokens := by
  apply split_strict_eq_iff.mpr
  refine ⟨h, 0, tokens.map fun token => (token, 0), ?_, spread_zero tokens⟩
  rw [List.map_map]
  exact List.map_id tokens

/-! ## Both ways -/

/-- Splitting undoes joining.  At single spaces every text has its tokens, one more than it has
spaces, and they are joined to the text again; and all tokens without spaces are found again, if
there are any.  Between any number of spaces the empty ones of these tokens are left out, so that
tokens that are not empty are found again however many spaces are added to them, and in no other
texts.  No text is split as the empty one is. -/
theorem splitting_undoes_joining :
    (∀ text : String,
      (∀ token ∈ legacy.split (some text), ' ' ∉ token.toList) ∧
      (legacy.split (some text)).length = text.toList.count ' ' + 1 ∧
      Text.joinFields ' ' (legacy.split (some text)) = text) ∧
    (∀ tokens : List String, tokens ≠ [] → (∀ token ∈ tokens, ' ' ∉ token.toList) →
      legacy.split (some (Text.joinFields ' ' tokens)) = tokens) ∧
    (∀ text : String,
      strict.split (some text) = (legacy.split (some text)).filter fun token => token ≠ "") ∧
    (∀ tokens : List String, (∀ token ∈ tokens, Solid token) →
      strict.split (some (Text.joinFields ' ' tokens)) = tokens) ∧
    (∀ (lead : Nat) (parts : List (String × Nat)), (∀ part ∈ parts, Solid part.1) →
      strict.split (some (spread lead parts)) = parts.map Prod.fst) ∧
    (∀ (text : String) (tokens : List String), strict.split (some text) = tokens →
      ∃ lead parts, parts.map Prod.fst = tokens ∧ spread lead parts = text) ∧
    ∀ mode : SplitMode, mode.split none = mode.split (some "") := by
  refine ⟨?_, ?_, split_strict, ?_, ?_, ?_, split_none⟩
  · intro text
    obtain ⟨-, hspaces, hjoin⟩ := split_legacy_eq_iff.mp (Eq.refl (legacy.split (some text)))
    exact ⟨hspaces, length_split_legacy text, hjoin⟩
  · intro tokens hne hspaces
    exact split_legacy_eq_iff.mpr ⟨hne, hspaces, rfl⟩
  · intro tokens hsolid
    exact split_strict_joinFields hsolid
  · intro lead parts hsolid
    exact split_strict_spread lead hsolid
  · intro text tokens hsplit
    exact (split_strict_eq_iff.mp hsplit).2

/-- Two arguments are found among spaces that are not all needed, and with them as many empty ones at
single spaces, from which the text is joined again. -/
theorem spaced_arguments_are_found :
    strict.split (some " -a  -DX=1 ") = ["-a", "-DX=1"] ∧
      strict.split (some "-a -DX=1") = ["-a", "-DX=1"] ∧
      legacy.split (some " -a  -DX=1 ") = ["", "-a", "", "-DX=1", ""] ∧
      strict.split none = [] ∧ legacy.split none = [""] := by
  obtain ⟨-, hlegacy, -, hjoined, hspread, -, hnone⟩ := splitting_undoes_joining
  have hfirst : Solid "-a" := ⟨by decide, by decide⟩
  have hsecond : Solid "-DX=1" := ⟨by decide, by decide⟩
  have hsolid : ∀ token ∈ ["-a", "-DX=1"], Solid token := by
    intro token htoken
    rcases List.mem_cons.mp htoken with rfl | htoken
    · exact hfirst
    · rw [List.mem_singleton.mp htoken]
      exact hsecond
  have hparts : ∀ part ∈ [("-a", 1), ("-DX=1", 1)], Solid part.1 := by
    intro part hpart
    exact hsolid part.1 (List.mem_map_of_mem hpart)
  refine ⟨hspread 1 [("-a", 1), ("-DX=1", 1)] hparts, hjoined _ hsolid,
    hlegacy ["", "-a", "", "-DX=1", ""] (by decide) (by decide), ?_, ?_⟩
  · rw [hnone]
    decide
  · rw [hnone]
    decide

end CrossGen.SplitMode
