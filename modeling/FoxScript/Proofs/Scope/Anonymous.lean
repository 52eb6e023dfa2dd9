import FoxScript.Proofs.Expr.Anonymous
import FoxScript.Proofs.Scope.Twin

/-!
# Resolution without numbers

The scopes of a program have the same faults whatever numbers its uses have: these only say where
hop counts are kept. So a file can be checked with its uses numbered from any number on, as long as
its hop counts are of no interest.

## Main definitions

* `Resolution.Blind`: two steps that differ in the hop counts that they keep at most.

## Main statements

* `Import.check_read`: what the check of a text finds does not depend on the numbers of its uses.
-/
namespace FoxScript

namespace Resolution

/-- Two states of resolution differ in the hop counts at most. -/
structure SameFaults (r r' : Resolution) : Prop where
  /-- The scopes are the same. -/
  scopes : r'.scopes = r.scopes
  /-- The same was reported. -/
  faults : r'.faults = r.faults

variable (imports : Token → List Diagnostic)

theorem tracks_sameFaults : Tracks imports imports (fun _ => True) SameFaults where
  scopes h := h.scopes
  rescope _ h := ⟨rfl, h.faults⟩
  located _ _ h := ⟨h.scopes, h.faults⟩
  scoping _ _ h := ⟨h.scopes, congrArg (· ++ _) h.faults⟩
  imported _ h := ⟨h.scopes, congrArg (· ++ _) h.faults⟩

/-- Two steps report the same and leave the same scopes, whatever hop counts are kept. -/
def Blind (a a' : Step Unit) : Prop :=
  ∀ r r' : Resolution, SameFaults r r' → SameFaults (a.after r) (a'.after r')

namespace Blind

theorem of_twin {a a' : Step Unit} (h : Step.Twin imports imports (fun _ => True) a a') :
    Blind a a' := fun _ _ same => (tracks_sameFaults imports).of_twin h same

theorem append {a a' b b' : Step Unit} (ha : Blind a a') (hb : Blind b b') :
    Blind (a >>= fun _ => b) (a' >>= fun _ => b') := fun _ _ same => hb _ _ (ha _ _ same)

theorem inScope (initial : Scope) {a a' : Step Unit} (h : Blind a a') :
    Blind (inScope initial a) (inScope initial a') := by
  intro r r' same
  have inside := h _ _ ((tracks_sameFaults fun _ => []).rescope (initial :: r.scopes) same)
  rw [after_inScope, after_inScope, same.scopes]
  exact ⟨congrArg (List.drop 1) inside.scopes, inside.faults⟩

theorem locate (id id' : NodeId) (name : Token) : Blind (locate id name) (locate id' name) := by
  intro r r' same
  rw [Resolution.locate, Resolution.locate, after_modify, after_modify, same.scopes]
  split
  · exact ⟨rfl, same.faults⟩
  · exact same

theorem use (id id' : NodeId) (name : Token) : Blind (use id name) (use id' name) := by
  intro r r' same
  rw [Resolution.use, Resolution.use, after_get, after_get, same.scopes]
  split
  · split
    · exact of_twin (fun _ => []) (.reportAt name _) r r' same
    · exact locate id id' name r r' same
  · exact locate id id' name r r' same

mutual

/-- Resolution is blind to the numbers of uses: one case for each form of expression. -/
theorem expr : ∀ e : Expr, Blind (Resolution.expr imports e) (Resolution.expr imports e.anonymous)
  | .literal _ | .break _ | .anyPattern _ => .of_twin imports .nil
  | .variable id name => .use id _ name
  | .array elements _ => exprs elements
  | .assign id name value => .append (expr value) (.locate id _ name)
  | .assignElement id name i value =>
    .append (expr i) (.append (expr value) (.locate id _ name))
  | .binary left _ right | .logical left _ right | .orPattern left _ right =>
    .append (expr left) (expr right)
  | .block members => .inScope [] (exprs members)
  | .call callee args _ => .append (expr callee) (exprs args)
  | .function none params body =>
    .inScope [] (.append (.of_twin imports (.parameters [] params)) (expr body))
  | .function (some name) params body =>
    .append (.of_twin imports (.declare name))
      (.append (.of_twin imports (.define name))
        (.inScope [] (.append (.of_twin imports (.parameters [] params)) (expr body))))
  | .group inner | .unary _ inner => expr inner
  | .import path => .of_twin imports (.imported path)
  | .index target i _ => .append (expr target) (expr i)
  | .slice target lower upper _ => .append (expr target) (.append (expr lower) (expr upper))
  | .match _ scrutinee branches => .append (expr scrutinee) (cases branches)
  | .ternary condition yes no _ => .append (expr condition) (.append (expr yes) (expr no))
  | .declare name =>
    .append (.of_twin imports (.declare name))
      (.of_twin imports (.define name))
  | .declareAs name value =>
    .append (.of_twin imports (.declare name))
      (.append (expr value) (.of_twin imports (.define name)))
  | .loop _ body => expr body
  | .loopWhile _ condition body => .append (expr condition) (expr body)

theorem exprs : ∀ es : List Expr,
    Blind (Resolution.exprs imports es) (Resolution.exprs imports (Expr.anonymousEach es))
  | [] => .of_twin imports .nil
  | e :: es => .append (expr e) (exprs es)

theorem cases : ∀ cs : List Case,
    Blind (Resolution.cases imports cs) (Resolution.cases imports (Case.anonymousEach cs))
  | [] => .of_twin imports .nil
  | .mk _ condition body :: cs => .append (expr condition) (.append (expr body) (cases cs))

end

end Blind

/-- Programs that are the same but for the numbers of their uses have the same faults. -/
theorem faults_ofProgram_of_sameText {es es' : List Expr}
    (same : List.Forall₂ Expr.SameText es es') :
    (ofProgram imports es').faults = (ofProgram imports es).faults := by
  have left := Blind.exprs imports es start start ⟨rfl, rfl⟩
  have right := Blind.exprs imports es' start start ⟨rfl, rfl⟩
  rw [Expr.anonymousEach_eq same] at right
  exact right.faults.symm.trans left.faults

end Resolution

namespace Import

/-- A text is read as the same program, with the same faults, from whichever number on its uses are
numbered. -/
theorem sameText_read (k n : Nat) (source : String) :
    (read k source).faults = (read n source).faults ∧
      List.Forall₂ Expr.SameText (read n source).exprs (read k source).exprs := by
  generalize hts : Lexer.tokens (Lexer.scan source) = ts
  have same : (⟨ts, k⟩ : Grammar.Cursor).rest = (⟨ts, n⟩ : Grammar.Cursor).rest := rfl
  obtain ⟨faults, exprs⟩ := Parse.ofRest_sameText ts (ts.length + 1) ts.length same
  subst hts
  exact ⟨congrArg (Lexer.faults (Lexer.scan source) ++ ·) faults, exprs⟩

/-- A text has the same faults from whichever number on its uses are numbered. So have its scopes,
whatever its imports report. -/
theorem check_read (k n : Nat) (source : String) :
    (read k source).faults = (read n source).faults ∧
      ∀ imports, (Resolution.ofProgram imports (read k source).exprs).faults =
        (Resolution.ofProgram imports (read n source).exprs).faults := by
  obtain ⟨faults, exprs⟩ := sameText_read k n source
  exact ⟨faults, fun imports => Resolution.faults_ofProgram_of_sameText imports exprs⟩

end Import

end FoxScript
