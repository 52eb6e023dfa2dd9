import FoxScript.Proofs.Session.Discipline.Programs

/-!
# Builtin functions and operators under a discipline

A builtin function that is called keeps what a lawful discipline says. The one that evaluates a text
does if nested programs are allowed. Operators keep it too; an operator that evaluation does not
know is a fault of the system.

## Main statements

* `Discipline.Lawful.does_builtin`: calls of builtin functions.
* `Discipline.Lawful.does_binary`, `Discipline.Lawful.does_unary`: operators.
-/
namespace FoxScript

namespace Discipline

variable {D : Discipline} {s t : Session} {breaks : Session → Token → Prop}

namespace Lawful

variable (law : D.Lawful)

include law

/-! ### Arguments -/

theorem does_textArg (tidy : D.Tidy s) (x : Token) (b : Builtin) (v : Value) :
    D.Does s breaks (fun _ _ => True) (Eval.textArg x b v) (Eval.textArg x b v) := by
  cases v with
  | text text => exact .pure tidy trivial
  | _ => exact .fail law tidy x rfl

theorem does_arrayArg (tidy : D.Tidy s) (x : Token) (b : Builtin) (v : Value) :
    D.Does s breaks D.AllHold (Eval.arrayArg x b v) (Eval.arrayArg x b v) := by
  cases v with
  | array a => exact Does.readStore (f := fun s => s.elements a) tidy (tidy.elements a)
  | _ => exact .fail law tidy x rfl

theorem does_patternArg (tidy : D.Tidy s) (x : Token) (b : Builtin) (v : Value) :
    D.Does s breaks (fun _ _ => True) (Eval.patternArg x b v) (Eval.patternArg x b v) := by
  refine (law.does_textArg tidy x b v).bind fun t pattern after _ _ => ?_
  split
  · exact .pure after.tidy trivial
  · exact .fail law after.tidy x rfl

/-! ### Functions -/

theorem does_readLine (tidy : D.Tidy s) (x : Token) :
    D.Does s breaks D.Holds (Eval.readLine x) (Eval.readLine x) := by
  refine (law.does_read tidy Input.readLine).bind fun t line after _ _ => ?_
  cases line with
  | ok cs => exact .pure after.tidy (.of_data rfl)
  | error cause => exact .fail law after.tidy x rfl

theorem does_readByte (tidy : D.Tidy s) :
    D.Does s breaks D.Holds Eval.readByte Eval.readByte := by
  refine (law.does_read tidy Input.readByte).bind fun t byte after _ _ => ?_
  cases byte with
  | some b => exact .pure after.tidy (.of_data rfl)
  | none => exact .pure after.tidy (.of_data rfl)

theorem does_charOfCode (tidy : D.Tidy s) (x : Token) (v : Value) :
    D.Does s breaks D.Holds (Eval.charOfCode x v) (Eval.charOfCode x v) := by
  cases v with
  | number y =>
    rw [Eval.charOfCode]
    exact .ite (fun _ => .pure tidy (.of_data rfl)) fun _ => .fail law tidy x rfl
  | _ => exact .fail law tidy x rfl

theorem does_lengthOf (tidy : D.Tidy s) (x : Token) (v : Value) :
    D.Does s breaks D.Holds (Eval.lengthOf x v) (Eval.lengthOf x v) := by
  cases v with
  | text text => exact .pure tidy (.of_data rfl)
  | array a =>
    exact .look (.pure tidy (.of_data rfl))
  | _ => exact .fail law tidy x rfl

theorem does_arrayOfLength (tidy : D.Tidy s) (x : Token) (v : Value) :
    D.Does s breaks D.Holds (Eval.arrayOfLength x v) (Eval.arrayOfLength x v) := by
  have invalid : D.Does s breaks D.Holds
      (do Eval.builtinFault x (.badCapacity (← Eval.readStore fun s => v.render s)))
      (do Eval.builtinFault x (.badCapacity (← Eval.readStore fun s => v.render s))) :=
    .look (.fail law tidy x rfl)
  cases v with
  | number y =>
    simp only [Eval.arrayOfLength]
    split
    · refine .get (.ite (fun _ => law.does_newArray tidy fun v hv => ?_) fun _ =>
        .fail law tidy x rfl)
      rw [Array.eq_of_mem_replicate hv]
      exact .of_data rfl
    · exact invalid
  | _ => exact invalid

theorem does_numberOf (tidy : D.Tidy s) (x : Token) (v : Value) :
    D.Does s breaks D.Holds (Eval.numberOf x v) (Eval.numberOf x v) := by
  unfold Eval.numberOf
  split
  · exact .pure tidy (.of_data rfl)
  · refine .look ?_
    split
    · exact .pure tidy (.of_data rfl)
    · exact .fail law tidy x rfl

/-! ### Operators -/

theorem does_arithmetic (tidy : D.Tidy s) (op : Token) (x y : Float)
    (compares : op.kind ≠ .equalEqual ∧ op.kind ≠ .bangEqual)
    (slip : op.kind ∉ Eval.operators → D.raises s (.system (.unknownOperator op.lexeme))) :
    D.Does s breaks D.Holds (Eval.arithmetic op x y) (Eval.arithmetic op x y) := by
  unfold Eval.arithmetic
  split
  case h_4 => exact .ite (fun _ => .fail law tidy op rfl) fun _ => .pure tidy (.of_data rfl)
  case h_9 =>
    refine .throw tidy (.failed (.system (slip ?_)))
    simp only [Eval.operators, List.mem_cons, List.not_mem_nil, or_false, not_or]
    exact ⟨compares.1, compares.2, by assumption, by assumption, by assumption, by assumption,
      by assumption, by assumption, by assumption, by assumption⟩
  all_goals exact .pure tidy (.of_data rfl)

theorem does_join (tidy : D.Tidy s) (op : Token) (v w : Value) :
    D.Does s breaks D.Holds (Eval.join op v w) (Eval.join op v w) := by
  unfold Eval.join
  split
  · exact .readStore tidy (.of_data rfl)
  · exact .readStore tidy (.of_data rfl)
  · exact .fail law tidy op rfl

theorem does_binary (tidy : D.Tidy s) (op : Token) (v w : Value)
    (slip : op.kind ∉ Eval.operators → D.raises s (.system (.unknownOperator op.lexeme))) :
    D.Does s breaks D.Holds (Eval.binary op v w) (Eval.binary op v w) := by
  unfold Eval.binary
  split
  · exact .readStore tidy (.of_data rfl)
  · exact .readStore tidy (.of_data rfl)
  · split
    · exact law.does_arithmetic tidy op _ _ ⟨by assumption, by assumption⟩ slip
    · exact .ite (fun _ => law.does_join tidy op v w) fun _ => .fail law tidy op rfl

theorem does_unary (tidy : D.Tidy s) (op : Token) (v : Value) :
    D.Does s breaks D.Holds (Eval.unary op v) (Eval.unary op v) := by
  unfold Eval.unary
  refine .ite (fun _ => ?_) fun _ => .pure tidy (.of_data rfl)
  split
  · exact .pure tidy (.of_data rfl)
  · exact .fail law tidy op rfl

/-! ### Calls -/

variable {eval eval' : Expr → Eval Value} (keeps : D.Keeps eval eval')

include keeps

theorem does_builtin (tidy : D.Tidy s) (x : Token) (b : Builtin) {vs : List Value}
    (h : ∀ v ∈ vs, D.Holds s v)
    (root : b = .eval → ∀ t, D.After s t → ∀ u, t.SameScopes u → u.frame = Store.root → D.sound u) :
    D.Does s breaks D.Holds (Eval.builtin eval x b vs) (Eval.builtin eval' x b vs) := by
  unfold Eval.builtin
  split
  · exact .get (.pure tidy (.of_data rfl))
  · exact .look ((law.does_print tidy _).bind fun t _ after _ _ => .pure after.tidy (.of_data rfl))
  · exact .look ((law.does_print tidy _).bind fun t _ after _ _ => .pure after.tidy (.of_data rfl))
  · exact .look ((law.does_print tidy _).bind fun t _ after _ _ => law.does_readLine after.tidy x)
  · exact law.does_readByte tidy
  · exact law.does_charOfCode tidy x _
  · exact law.does_lengthOf tidy x _
  · refine (law.does_textArg tidy x _ _).bind fun t source after _ _ => .get ?_
    refine (law.does_runNested keeps after.tidy (root rfl t after) _ _).bind fun u r after _ h => ?_
    exact does_settle after.tidy x (fun _ => law.admits_eval _) h
  · exact law.does_arrayOfLength tidy x _
  · obtain ⟨ht, -, hv, -⟩ : _ ∧ _ ∧ _ ∧ True := by simpa using h
    refine (law.does_setElement tidy x _ _ hv).bind fun t _ after _ _ => ?_
    exact .pure after.tidy (ht.mono law after.advances)
  · refine (law.does_arrayArg tidy x _ _).bind fun t vs after _ hvs => ?_
    refine (law.does_arrayArg after.tidy x _ _).bind fun u ws after _ hws => ?_
    refine law.does_newArray after.tidy fun v hv => ?_
    obtain hv | hv := Array.mem_append.1 hv
    · exact law.allHold_mono hvs after.advances v hv
    · exact hws v hv
  · refine (law.does_textArg tidy x _ _).bind fun t text after _ _ => ?_
    refine (law.does_patternArg after.tidy x _ _).bind fun u pattern after _ _ => ?_
    refine law.does_newArray after.tidy fun v hv => ?_
    obtain ⟨cs, -, rfl⟩ := List.mem_map.1 (List.mem_toArray.1 hv)
    exact .of_data rfl
  · exact (law.does_textArg tidy x _ _).bind fun t _ after _ _ =>
      (law.does_patternArg after.tidy x _ _).bind fun u _ after _ _ =>
        (law.does_textArg after.tidy x _ _).bind fun w _ after _ _ =>
          .pure after.tidy (.of_data rfl)
  · exact (law.does_textArg tidy x _ _).bind fun t _ after _ _ =>
      .pure after.tidy (.of_data rfl)
  · exact .pure tidy (.of_data rfl)
  · exact law.does_numberOf tidy x _
  · exact .pure tidy (.of_data rfl)

end Lawful

end Discipline

end FoxScript
