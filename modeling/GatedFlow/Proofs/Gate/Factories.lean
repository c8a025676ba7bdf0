import GatedFlow.Gate.Condition
import GatedFlow.Proofs.Expression.Fields
import Mathlib

/-! # Conditions on a field and comparisons of it

A dotted text and the segments of a condition are resolved each in its own way, the text by splitting at full stops and
reading positions in arrays. On a path of identifiers the two lead to the same value, because no identifier reads as a
position (`State.getPath?_dotted`). So the conditions on a field decide as the comparisons of that field with a literal do
(`conditions_decide_alike`). -/

namespace GatedFlow

variable {s : State} {v : Value} {name : String} {names : List String} {part word text : List Char}

/-! ### Paths -/

theorem dot_not_mem (h : isIdentifier name = true) : '.' ∉ name.toList := by
  obtain ⟨c, rest, hlist, hc, hrest⟩ := isIdentifier_iff.1 h
  rw [hlist]
  rintro (_ | ⟨_, hdot⟩)
  · exact absurd hc (by decide)
  · exact absurd (hrest _ hdot) (by decide)

theorem splitDots_append (hword : '.' ∉ word) : splitDots part (word ++ text) = splitDots (word.reverse ++ part) text := by
  induction word generalizing part with
  | nil => rfl
  | cons c word ih =>
    obtain ⟨hc, hword⟩ := not_or.1 (mt List.mem_cons.2 hword)
    rw [List.cons_append, splitDots, ih hword, List.reverse_cons, List.append_assoc]
    · rfl
    · exact fun h => hc h.symm

theorem splitDots_fieldText (hnames : ∀ name ∈ names, isIdentifier name = true) :
    splitDots part (Lexer.fieldText names) = part.reverse :: names.map String.toList := by
  induction names generalizing part with
  | nil => rfl
  | cons name names ih =>
    obtain ⟨hname, hnames⟩ := List.forall_mem_cons.1 hnames
    show part.reverse :: splitDots [] (name.toList ++ Lexer.fieldText names) = _
    rw [splitDots_append (dot_not_mem hname), ih hnames, List.append_nil, List.reverse_reverse, List.map_cons]

/-- Splitting a dotted text gives back the identifiers. -/
theorem splitDots_dotted (hne : names ≠ []) (hnames : ∀ name ∈ names, isIdentifier name = true) :
    splitDots [] (dotted names).toList = names.map String.toList := by
  have hsplit : splitDots [] ('.' :: (dotted names).toList) = [] :: names.map String.toList := by
    rw [Lexer.toList_dotted hne]
    exact splitDots_fieldText hnames
  exact (List.cons.inj hsplit).2

theorem readWord_identifier (h : isIdentifier name = true) : readWord name.toList = .error .strayCharacter := by
  obtain ⟨c, rest, hlist, hc, -⟩ := isIdentifier_iff.1 h
  have hplus : c ≠ '+' := by
    rintro rfl
    exact absurd hc (by decide)
  rw [hlist, readWord, readWordFrom, if_neg (by rw [Lexer.isDigit_of_startsWord hc]; decide)]
  all_goals simp [hplus]

namespace Value

theorem dotted?_identifier (v : Value) (h : isIdentifier name = true) : v.dotted? name.toList = v.child? (.key name) := by
  cases v with
  | object fields => rw [dotted?, String.ofList_toList]
  | array items =>
    rw [dotted?, readWord_identifier h]
    rfl
  | _ => rfl

theorem foldlM_dotted? (v : Value) (hnames : ∀ name ∈ names, isIdentifier name = true) :
    (names.map String.toList).foldlM dotted? v = (names.map Segment.key).foldlM child? v := by
  induction names generalizing v with
  | nil => rfl
  | cons name names ih =>
    obtain ⟨hname, hnames⟩ := List.forall_mem_cons.1 hnames
    rw [List.map_cons, List.map_cons, List.foldlM_cons, List.foldlM_cons, dotted?_identifier v hname]
    exact bind_congr fun w => ih w hnames

end Value

/-- A dotted text of identifiers leads where the path with these names leads. -/
theorem State.getPath?_dotted (s : State) (hne : names ≠ []) (hnames : ∀ name ∈ names, isIdentifier name = true) :
    s.getPath? (dotted names) = s.resolve? (names.map .key) := by
  rw [getPath?, splitDots_dotted hne hnames]
  obtain ⟨name, names, rfl⟩ := List.exists_cons_of_ne_nil hne
  obtain ⟨-, hnames⟩ := List.forall_mem_cons.1 hnames
  simp only [List.map_cons, resolve?, String.ofList_toList, Value.foldlM_dotted? _ hnames]

/-! ### Answers -/

/-- A condition always answers, with yes where a comparison is true, and with no where it is false or is not meant for the
kinds of its operands. -/
structure Alike (c : Condition) (e : Expr) (s : State) : Prop where
  answers : ∃ b, c.check s = .ok b
  yes : c.check s = .ok true ↔ e.eval s = .ok (.bool true)
  no : c.check s = .ok false ↔
    e.eval s = .ok (.bool false) ∨ ∃ operation left right, e.eval s = .error (.typeMismatch operation left right)

/-! ### Failures -/

theorem orderValues_error {op : CompareOp} {w : Value} {p : PredicateError} (h : orderValues op v w = .error p) :
    ∃ operation left right, p = .typeMismatch operation left right := by
  unfold orderValues at h
  split at h <;> cases h
  exact ⟨_, _, _, rfl⟩

theorem memberOf_error {op : CompareOp} {w : Value} {p : PredicateError} (h : memberOf op v w = .error p) :
    ∃ operation left right, p = .typeMismatch operation left right := by
  unfold memberOf at h
  split at h <;> cases h
  exact ⟨_, _, _, rfl⟩

/-- A comparison fails only because it is not meant for its operands. -/
theorem CompareOp.apply_error {op : CompareOp} {w : Value} {p : PredicateError} (h : op.apply v w = .error p) :
    ∃ operation left right, p = .typeMismatch operation left right := by
  have hmap : ∀ {α : Type} {x : Except PredicateError α} {f : α → Bool}, x.map f = .error p → x = .error p := by
    intro α x f hx
    cases x with
    | error q => exact congrArg Except.error (Except.error.inj hx)
    | ok a => cases hx
  cases op with
  | eq | ne => cases h
  | lt | le | gt | ge => exact orderValues_error (hmap h)
  | within | contains => exact memberOf_error h
  | notWithin => exact memberOf_error (hmap h)

/-- What a field holds for a condition, `null` if it is absent. -/
def State.fieldValue (s : State) (names : List String) : Value := (s.resolve? (names.map .key)).getD .null

/-- A condition that answers as a comparison does, and with no where the comparison fails, decides as it does. -/
theorem Alike.of_check {c : Condition} {op : CompareOp}
    (h : c.check s = .ok ((op.apply (s.fieldValue names) v).toOption.getD false)) :
    Alike c (.compare op (.field names) (.literal v)) s := by
  have heval : (Expr.compare op (.field names) (.literal v)).eval s = (op.apply (s.fieldValue names) v).map .bool := by
    simp only [Expr.field, Expr.eval]
    show (do return Value.bool (← op.apply (s.fieldValue names) v)) = _
    cases op.apply (s.fieldValue names) v <;> rfl
  cases hanswer : op.apply (s.fieldValue names) v with
  | ok b =>
    have hcheck : c.check s = .ok b := by rw [h, hanswer]; rfl
    have hvalue : (Expr.compare op (.field names) (.literal v)).eval s = .ok (.bool b) := by rw [heval, hanswer]; rfl
    exact { answers := ⟨b, hcheck⟩, yes := by simp [hcheck, hvalue], no := by simp [hcheck, hvalue] }
  | error p =>
    obtain ⟨operation, left, right, rfl⟩ := CompareOp.apply_error hanswer
    have hcheck : c.check s = .ok false := by rw [h, hanswer]; rfl
    have hfails : (Expr.compare op (.field names) (.literal v)).eval s = .error (.typeMismatch operation left right) := by
      rw [heval, hanswer]
      rfl
    exact { answers := ⟨false, hcheck⟩, yes := by simp [hcheck, hfails], no := by simp [hcheck, hfails] }

/-! ### Conditions on a field -/

section

variable (s) (hne : names ≠ []) (hnames : ∀ name ∈ names, isIdentifier name = true)
include hne hnames

theorem alike_equals (hv : v ≠ .null) : Alike (.equals (dotted names) v) (.compare .eq (.field names) (.literal v)) s := by
  refine .of_check (congrArg Except.ok ?_)
  beta_reduce
  rw [State.getPath?_dotted s hne hnames, State.fieldValue]
  cases s.resolve? (names.map .key) with
  | some w => rfl
  | none =>
    cases v with
    | null => exact absurd rfl hv
    | _ => rfl

theorem alike_contains : Alike (.contains (dotted names) v) (.compare .contains (.field names) (.literal v)) s := by
  refine .of_check (congrArg Except.ok ?_)
  beta_reduce
  rw [State.getPath?_dotted s hne hnames, State.fieldValue]
  cases s.resolve? (names.map .key) with
  | none => cases v <;> rfl
  | some w => cases w <;> cases v <;> rfl

theorem alike_greater (x : Number) :
    Alike (.greater (dotted names) x.toDouble) (.compare .gt (.field names) (.literal (.number x))) s := by
  refine .of_check (congrArg Except.ok ?_)
  beta_reduce
  rw [State.getPath?_dotted s hne hnames, State.fieldValue]
  cases s.resolve? (names.map .key) with
  | none => rfl
  | some w =>
    cases w with
    | number y =>
      refine Bool.eq_iff_iff.2 ?_
      show x.toDouble.less y.toDouble = true ↔ (compare y.toDouble.units x.toDouble.units == .gt) = true
      rw [beq_iff_eq, compare_gt_iff_gt, Double.less, decide_eq_true_eq]
    | _ => rfl

theorem alike_less (x : Number) :
    Alike (.less (dotted names) x.toDouble) (.compare .lt (.field names) (.literal (.number x))) s := by
  refine .of_check (congrArg Except.ok ?_)
  beta_reduce
  rw [State.getPath?_dotted s hne hnames, State.fieldValue]
  cases s.resolve? (names.map .key) with
  | none => rfl
  | some w =>
    cases w with
    | number y =>
      refine Bool.eq_iff_iff.2 ?_
      show y.toDouble.less x.toDouble = true ↔ (compare y.toDouble.units x.toDouble.units == .lt) = true
      rw [beq_iff_eq, compare_lt_iff_lt, Double.less, decide_eq_true_eq]
    | _ => rfl

end

/-- The conditions on a field that a path of identifiers leads to, and the comparisons of that path with a literal, decide
alike: the path is read from its source, a condition has the answer yes exactly where the comparison is true, and its
answer is no where the comparison is false or not meant for what the field holds. -/
theorem conditions_decide_alike [PatternEngine] (hne : names ≠ []) (hnames : ∀ name ∈ names, isIdentifier name = true) :
    Expression.ofSource ("state." ++ dotted names) = .ok ⟨"state." ++ dotted names, .field names⟩ ∧
      ∀ s : State,
        (∀ v, v ≠ .null → Alike (.equals (dotted names) v) (.compare .eq (.field names) (.literal v)) s) ∧
        (∀ v, Alike (.contains (dotted names) v) (.compare .contains (.field names) (.literal v)) s) ∧
        (∀ x : Number, Alike (.greater (dotted names) x.toDouble) (.compare .gt (.field names) (.literal (.number x))) s) ∧
        ∀ x : Number, Alike (.less (dotted names) x.toDouble) (.compare .lt (.field names) (.literal (.number x))) s := by
  refine ⟨Expression.ofSource_field hne hnames, fun s => ⟨fun v hv => ?_, fun v => ?_, fun x => ?_, fun x => ?_⟩⟩
  · exact alike_equals s hne hnames hv
  · exact alike_contains s hne hnames
  · exact alike_greater s hne hnames x
  · exact alike_less s hne hnames x

/-- A state with a field inside a field. -/
def goldUser : State := State.empty.set "user" (.object [("tier", .string "gold")])

theorem conditions_decide_alike_tier :
    (["user", "tier"] ≠ [] ∧ ∀ name ∈ ["user", "tier"], isIdentifier name = true) ∧
      (Condition.equals "user.tier" (.string "gold")).check goldUser = .ok true ∧
      (Expr.compare .eq (.field ["user", "tier"]) (.literal (.string "gold"))).eval goldUser = .ok (.bool true) := by
  have hne : ["user", "tier"] ≠ [] := by decide
  have hnames : ∀ name ∈ ["user", "tier"], isIdentifier name = true := by decide
  have hcheck : (Condition.equals "user.tier" (.string "gold")).check goldUser = .ok true := by decide
  exact ⟨⟨hne, hnames⟩, hcheck, (((conditions_decide_alike hne hnames).2 goldUser).1 _ (by simp)).yes.1 hcheck⟩

end GatedFlow
