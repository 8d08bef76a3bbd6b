import Reckon.Proofs.Arrangement.Earliest

/-!
# Blanks between tokens do not matter

Whether tokens are in order, and what is wrong first where they are not, is decided by the tokens
that are no blanks.  Tokens that are the same but for blanks are in order together
(`check_of_withoutSpaces_eq`), have the same fault at the end together
(`check_of_withoutSpaces_eq_of_none`), and have the same fault at the same token together,
although the index of that token may differ (`check_of_withoutSpaces_eq_of_some`).
-/

namespace Reckon

namespace Token

/-- Blanks are all dropped. -/
theorem withoutSpaces_eq_nil {tokens : List Token} (h : ∀ token ∈ tokens, token.isSpace = true) :
    withoutSpaces tokens = [] := by
  simpa [withoutSpaces] using h

theorem isSpace_of_withoutSpaces_eq_nil {tokens : List Token} (h : withoutSpaces tokens = []) :
    ∀ token ∈ tokens, token.isSpace = true := by
  simpa [withoutSpaces] using h

end Token

namespace Arrangement

variable {tokens others front front' back back' : List Token} {token : Token}

/-- Blanks leave a state as it is. -/
theorem scan_of_isSpace (h : ∀ token ∈ tokens, token.isSpace = true) (state : State)
    (index : Nat) : scan state index tokens = .ok state := by
  induction tokens generalizing index with
  | nil => rfl
  | cons token rest ih =>
    obtain ⟨space, others⟩ := List.forall_mem_cons.1 h
    rw [scan_cons_of_isSpace space, ih others]

/-- Tokens that are the same but for blanks are in order together. -/
theorem check_of_withoutSpaces_eq (same : Token.withoutSpaces tokens = Token.withoutSpaces others)
    (h : check tokens = .ok ()) : check others = .ok () := by
  rw [check_eq_ok_iff, ← same]
  exact derives_of_check h

theorem last_eq_none_of_view_eq {state other : State} (h : other.view = state.view)
    (empty : state.last = none) : other.last = none := by
  have before : other.last.map Prod.fst = state.last.map Prod.fst := congrArg Prod.snd h
  rwa [empty, Option.map_none, Option.map_eq_none_iff] at before

/-- A fault without a token is found in all tokens that are the same but for blanks. -/
theorem check_of_withoutSpaces_eq_of_none {fault : Misplacement}
    (same : Token.withoutSpaces tokens = Token.withoutSpaces others)
    (h : check tokens = .error fault) (place : fault.index = none) :
    check others = .error fault := by
  rcases check_error_cases h with
    ⟨_, _, _, _, _, _, _, _, elsewhere⟩ | ⟨reached, scanned, last⟩
  · exact absurd (place.symm.trans elsewhere) (by simp)
  · obtain ⟨reached', scanned', view⟩ := exists_scan_of_view_eq scanned rfl same 0
    have depth : reached'.depth = reached.depth := congrArg Prod.fst view
    rw [check, scanned']
    show finish reached' = .error fault
    rcases finish_error_cases last with
      ⟨deep, rfl⟩ | ⟨flat, empty, rfl⟩ | ⟨_, _, _, _, rfl⟩
    · rw [finish, if_pos (depth ▸ deep)]
    · rw [finish, if_neg (not_not_intro (depth.trans flat)), last_eq_none_of_view_eq view empty]
    · exact absurd place (by simp)

/-- The token at which a fault shows is no blank, and either has a flaw behind the tokens before
it, or is an operator with nothing but blanks behind it. -/
theorem check_error_at {fault : Misplacement} (h : check (front ++ token :: back) = .error fault)
    (place : fault.index = some front.length) :
    ∃ reached, scan start 0 front = .ok reached ∧ ¬token.isSpace = true ∧
      (flaw? reached.depth reached.before token.kind = some fault.reason ∨
        flaw? reached.depth reached.before token.kind = none ∧
          (∀ blank ∈ back, blank.isSpace = true) ∧
          finish (reached.after front.length token.kind) = .error fault) := by
  rcases check_error_cases h with
    ⟨front', token', back', reached, split, scanned, solid, flaw, here⟩ | ⟨reached, scanned, last⟩
  · have length : front.length = front'.length := Option.some.inj (place.symm.trans here)
    obtain ⟨rfl, rest⟩ := List.append_inj split length
    cases rest
    exact ⟨reached, scanned, solid, .inl flaw⟩
  · rcases finish_error_cases last with ⟨_, rfl⟩ | ⟨_, _, rfl⟩ | ⟨_, op, index, trailing, rfl⟩
    · exact absurd place (by simp)
    · exact absurd place (by simp)
    · obtain ⟨front', token', back', split, kind, here, solid, blank⟩ :=
        exists_of_last_eq_some scanned trailing
      have length : front.length = front'.length := (Option.some.inj place).symm.trans here
      obtain ⟨rfl, rest⟩ := List.append_inj split length
      cases rest
      obtain ⟨middle, before⟩ := exists_scan_of_append scanned
      rw [scan_append_of_ok before, Nat.zero_add] at scanned
      refine ⟨middle, before, solid, .inr ?_⟩
      cases flaw : flaw? middle.depth middle.before token.kind with
      | some reason =>
        rw [scan_cons_of_flaw solid flaw] at scanned
        exact absurd scanned (by simp)
      | none =>
        rw [scan_cons_of_no_flaw solid flaw, scan_of_isSpace blank] at scanned
        cases Except.ok.inj scanned
        exact ⟨rfl, blank, last⟩

/-- A fault that shows at a token shows there in all tokens that are the same but for blanks. -/
theorem check_of_withoutSpaces_eq_of_some {fault : Misplacement}
    (before : Token.withoutSpaces front = Token.withoutSpaces front')
    (behind : Token.withoutSpaces back = Token.withoutSpaces back')
    (h : check (front ++ token :: back) = .error fault) (place : fault.index = some front.length) :
    check (front' ++ token :: back') = .error ⟨fault.reason, some front'.length⟩ := by
  obtain ⟨reached, scanned, solid, cases⟩ := check_error_at h place
  obtain ⟨reached', scanned', view⟩ := exists_scan_of_view_eq scanned rfl before 0
  have depth : reached'.depth = reached.depth := congrArg Prod.fst view
  have same : flaw? reached'.depth reached'.before token.kind =
      flaw? reached.depth reached.before token.kind := by
    rw [depth, show reached'.before = reached.before from congrArg Prod.snd view]
  rcases cases with flaw | ⟨flawless, blank, last⟩
  · have flaw' : flaw? reached'.depth reached'.before token.kind =
        some (Misplacement.mk fault.reason (some front'.length)).reason := same.trans flaw
    exact check_append_of_flaw scanned' solid flaw' rfl back'
  · rw [Token.withoutSpaces_eq_nil blank] at behind
    have blank' := Token.isSpace_of_withoutSpaces_eq_nil behind.symm
    rw [check, scan_append_of_ok scanned', Nat.zero_add,
      scan_cons_of_no_flaw solid (same.trans flawless), scan_of_isSpace blank']
    show finish (reached'.after front'.length token.kind) = _
    rcases finish_error_cases last with ⟨_, rfl⟩ | ⟨_, _, rfl⟩ | ⟨flat, op, index, trailing, rfl⟩
    · exact absurd place (by simp)
    · exact absurd place (by simp)
    · have kind : token.kind = .operator op := (Prod.mk.inj (Option.some.inj trailing)).1
      have flat' : (reached'.after front'.length token.kind).depth = 0 := by
        rw [State.depth_after, depth]
        exact flat
      rw [finish, if_neg (not_not_intro flat'), State.after, kind]

end Arrangement

end Reckon
