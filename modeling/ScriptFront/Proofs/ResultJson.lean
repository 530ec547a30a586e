import ScriptFront.Proofs.FormEquality
import ScriptFront.Proofs.TreeJson

set_option autoImplicit false

/-! The JSON value of a result determines the result, in either form. In an S-expression only the quotes
around a string keep it apart from a symbol. -/

namespace ScriptFront

open Binary64 (isNonnegative)

namespace Json

-- Where numbers are written, the infinite ones as `null`.
def isNumeric : Json → Bool
  | .null | .integer _ | .float _ => true
  | _ => false

theorem numeric_of_number (x : Binary64) : (ofNumber x).isNumeric = true := by
  cases x with
  | finite x => rcases of_finite x with ⟨i, shape, _⟩ | shape <;> rw [shape] <;> rfl
  | nan | infinite negative => rfl

theorem numeric_same (v w : Json) (equal : v.same w = true) : v.isNumeric = w.isNumeric := by
  cases v <;> cases w <;> simp_all [same, isNumeric]

end Json

namespace SExpr

theorem quotes_cancel (s t : String) (equal : "\"" ++ s ++ "\"" = "\"" ++ t ++ "\"") : s = t := by
  have chars := congrArg String.toList equal
  simp only [String.toList_append, List.append_cancel_left_eq, List.append_cancel_right_eq] at chars
  exact String.toList_inj.mp chars

theorem string_not_bare (text : String) : isBare ("\"" ++ text ++ "\"") = false := by
  simp [isBare, String.toList_append]

def isNumber : SExpr → Bool
  | .number _ => true
  | _ => false

theorem numeric_json (e : SExpr) : e.toJson.isNumeric = e.isNumber := by
  cases e with
  | number value => exact Json.numeric_of_number value
  | _ => simp [toJson, Json.isNumeric, isNumber]

mutual
theorem eq_of_json (a b : SExpr) (plain : a.isPlain = true) (plain' : b.isPlain = true)
    (equal : a.toJson.same b.toJson = true) : a = b := by
  have numbers : a.isNumber = b.isNumber := by
    rw [← numeric_json, ← numeric_json]
    exact Json.numeric_same _ _ equal
  cases a with
  | number x =>
      cases b with
      | number y => rw [Json.number_eq_of_same x y plain plain' equal]
      | _ => contradiction
  | string s =>
      cases b with
      | string t =>
          have quoted : "\"" ++ s ++ "\"" = "\"" ++ t ++ "\"" := by simpa [toJson, Json.same] using equal
          rw [quotes_cancel s t quoted]
      | symbol name =>
          have written : "\"" ++ s ++ "\"" = name := by simpa [toJson, Json.same] using equal
          rw [← written, isPlain, string_not_bare] at plain'
          contradiction
      | number y => contradiction
      | list items => simp [toJson, Json.same] at equal
  | symbol name =>
      cases b with
      | string t =>
          have written : name = "\"" ++ t ++ "\"" := by simpa [toJson, Json.same] using equal
          rw [written, isPlain, string_not_bare] at plain
          contradiction
      | symbol name' =>
          have same : name = name' := by simpa [toJson, Json.same] using equal
          rw [same]
      | number y => contradiction
      | list items => simp [toJson, Json.same] at equal
  | list items =>
      cases b with
      | list items' => rw [items_eq_of_json items items' plain plain' equal]
      | number y => contradiction
      | _ => simp [toJson, Json.same] at equal
termination_by structural a

theorem items_eq_of_json (as bs : List SExpr) (plain : plainItems as = true) (plain' : plainItems bs = true)
    (equal : Json.sameItems (itemsJson as) (itemsJson bs) = true) : as = bs := by
  cases as with
  | nil =>
      cases bs with
      | nil => rfl
      | cons b bs => simp [itemsJson, Json.sameItems] at equal
  | cons a as =>
      cases bs with
      | nil => simp [itemsJson, Json.sameItems] at equal
      | cons b bs =>
          simp only [plainItems, itemsJson, Json.sameItems, Bool.and_eq_true] at plain plain' equal
          rw [eq_of_json a b plain.1 plain'.1 equal.1, items_eq_of_json as bs plain.2 plain'.2 equal.2]
termination_by structural as
end

-- The atoms and lists that an S-expression is made of, itself included.
inductive Within (x : SExpr) : SExpr → Prop where
  | itself : Within x x
  | item (item : SExpr) (items : List SExpr) (member : item ∈ items) (inside : Within x item) :
      Within x (.list items)

theorem plain_within (x e : SExpr) (inside : x.Within e) (plain : e.isPlain = true) : x.isPlain = true := by
  induction inside with
  | itself => exact plain
  | item item items member _ ih =>
      rw [isPlain, plain_items_eq_all, List.all_eq_true] at plain
      exact ih (plain item member)

end SExpr

theorem plain_of_parse (source : String) (e : SExpr) (parsed : parse SExpr.actions source = .ok e) :
    e.isPlain = true := by
  rw [SExpr.plain_eq_passes]
  exact passes_of_parse bare_admits source e parsed

theorem sexpr_parts_determined (left right : String) (e f x y : SExpr)
    (parsed : parse SExpr.actions left = .ok e) (parsed' : parse SExpr.actions right = .ok f)
    (inside : x.Within e) (inside' : y.Within f) (equal : x.toJson.same y.toJson = true) :
    x = y ∧ x.same y = true := by
  have plain := SExpr.plain_within x e inside (plain_of_parse left e parsed)
  have plain' := SExpr.plain_within y f inside' (plain_of_parse right f parsed')
  have one := SExpr.eq_of_json x y plain plain' equal
  exact ⟨one, (SExpr.same_iff_eq x y plain plain').mpr one⟩

-- Two programs with the same JSON value are equal. In S-expressions that is so for any two parts.
theorem json_determines_result (left right : String) :
    (∀ p q, parse Program.actions left = .ok p → parse Program.actions right = .ok q →
        p.toJson.same q.toJson = true → p = q ∧ p.same q = true) ∧
      ∀ e f, parse SExpr.actions left = .ok e → parse SExpr.actions right = .ok f →
        (e.toJson.same f.toJson = true → e = f ∧ e.same f = true) ∧
          ∀ x y : SExpr, x.Within e → y.Within f → x.toJson.same y.toJson = true → x = y ∧ x.same y = true := by
  constructor
  · intro p q parsed parsed' equal
    have proper := proper_of_parse left p parsed
    have proper' := proper_of_parse right q parsed'
    have one := program_eq_of_json p q (statements_numbers_of_proper _ p.body proper)
      (statements_numbers_of_proper _ q.body proper') equal
    exact ⟨one, (program_same_iff_eq p q proper proper').mpr one⟩
  · intro e f parsed parsed'
    exact ⟨sexpr_parts_determined left right e f e f parsed parsed' .itself .itself,
      fun x y inside inside' => sexpr_parts_determined left right e f x y parsed parsed' inside inside'⟩

-- Both numbers round to the same one, and the quotes of a string are no part of it.
theorem json_determines_result_at_rounded :
    (∃ p q, parse Program.actions "x = \"x\" + 9007199254740993;" = .ok p ∧
        parse Program.actions "x = 'x' + 9007199254740992;" = .ok q ∧ p.toJson.same q.toJson = true ∧
        p = q ∧ p.same q = true) ∧
      ∃ e f, parse SExpr.actions "x = \"x\" + 9007199254740993;" = .ok e ∧
        parse SExpr.actions "x = 'x' + 9007199254740992;" = .ok f ∧ e.Within e ∧ f.Within f ∧
        e.toJson.same f.toJson = true ∧ e = f ∧ e.same f = true := by
  obtain ⟨p, q, parsed, parsed', equal⟩ := exist_of_results (fun p q : Program => p.toJson.same q.toJson)
    (parse Program.actions "x = \"x\" + 9007199254740993;") (parse Program.actions "x = 'x' + 9007199254740992;")
    (by decide +kernel) (by decide +kernel)
  obtain ⟨e, f, made, made', equal'⟩ := exist_of_results (fun e f : SExpr => e.toJson.same f.toJson)
    (parse SExpr.actions "x = \"x\" + 9007199254740993;") (parse SExpr.actions "x = 'x' + 9007199254740992;")
    (by decide +kernel) (by decide +kernel)
  have determined := json_determines_result "x = \"x\" + 9007199254740993;" "x = 'x' + 9007199254740992;"
  have parts := (determined.2 e f made made').2 e f .itself .itself equal'
  exact ⟨⟨p, q, parsed, parsed', equal, determined.1 p q parsed parsed' equal⟩,
    e, f, made, made', .itself, .itself, equal', parts⟩

end ScriptFront
