import Mathlib.Data.List.SplitBy
import MessageTunnel.Json.Value
import MessageTunnel.Proofs.Json.Scanning
set_option autoImplicit false

namespace MessageTunnel.Json

def Reader.run (r : Reader) (ts : List Token) : Option Reader := ts.foldlM Reader.read r

theorem Reader.run_cons {r r' : Reader} {t : Token} (h : r.read t = some r') (rest : List Token) :
    r.run (t :: rest) = r'.run rest := by
  simp [run, h]

theorem run_first (v : Json) (stack : List Frame) (rest : List Token) :
    Reader.run (.first stack) (v.tokens ++ rest) =
      Reader.run (.value (.array [] :: stack)) (v.tokens ++ rest) := by
  cases v with
  | null | boolean b | number n | string s => rfl
  | array items => cases items <;> rfl
  | object members => cases members <;> rfl

mutual

theorem run_tokens_append (v : Json) (stack : List Frame) (rest : List Token) :
    Reader.run (.value stack) (v.tokens ++ rest) = (Reader.complete v stack).run rest := by
  match v with
  | .null | .boolean b | .number n | .string s => exact Reader.run_cons rfl rest
  | .array [] => exact (Reader.run_cons rfl _).trans (Reader.run_cons rfl rest)
  | .array (item :: items) =>
    rw [tokens, List.append_assoc, List.cons_append, Reader.run_cons rfl, run_first,
      run_tokens_append item]
    exact run_itemTokens items [item] stack rest
  | .object [] => exact (Reader.run_cons rfl _).trans (Reader.run_cons rfl rest)
  | .object ((k, v) :: members) =>
    rw [tokens, List.append_assoc, List.cons_append, List.cons_append, List.cons_append,
      Reader.run_cons rfl, Reader.run_cons rfl, Reader.run_cons rfl, run_tokens_append v]
    exact run_memberTokens members [(k, v)] k stack rest

theorem run_itemTokens (items done : List Json) (stack : List Frame) (rest : List Token) :
    Reader.run (.after (.array done :: stack)) (itemTokens items ++ rest) =
      (Reader.complete (.array (done.reverse ++ items)) stack).run rest := by
  match items with
  | [] => rw [List.append_nil]; exact Reader.run_cons rfl rest
  | item :: items =>
    have others := run_itemTokens items (item :: done) stack rest
    rw [List.reverse_cons, List.append_assoc] at others
    rw [itemTokens, List.append_assoc, List.cons_append, Reader.run_cons rfl,
      run_tokens_append item]
    exact others

theorem run_memberTokens (members done : List (String × Json)) (key : String)
    (stack : List Frame) (rest : List Token) :
    Reader.run (.after (.object done key :: stack)) (memberTokens members ++ rest) =
      (Reader.complete (.object (done.reverse ++ members)) stack).run rest := by
  match members with
  | [] => rw [List.append_nil]; exact Reader.run_cons rfl rest
  | (k, v) :: members =>
    have others := run_memberTokens members ((k, v) :: done) k stack rest
    rw [List.reverse_cons, List.append_assoc] at others
    rw [memberTokens, List.append_assoc, List.cons_append, List.cons_append, List.cons_append,
      Reader.run_cons rfl, Reader.run_cons rfl, Reader.run_cons rfl, run_tokens_append v]
    exact others

end

theorem ofTokens_tokens (v : Json) : ofTokens v.tokens = some v := by
  have whole := run_tokens_append v [] []
  rw [List.append_nil] at whole
  rw [ofTokens, show v.tokens.foldlM Reader.read (.value []) = some (.done v) from whole]
  rfl

def Follows (rest : List Token) : Prop := Spaced rest ∧ ∀ t ∈ rest.head?, t.isWord = false

theorem Follows.cons {t : Token} {rest : List Token} (notWord : t.isWord = false)
    (spaced : Spaced rest) : Follows (t :: rest) := by
  refine ⟨List.isChain_cons.2 ⟨fun u _ word => ?_, spaced⟩, by simpa using notWord⟩
  simp [notWord] at word

mutual

theorem spaced_tokens (v : Json) {rest : List Token} (h : Follows rest) :
    Spaced (v.tokens ++ rest) := by
  match v with
  | .null | .boolean b | .number n => exact List.isChain_cons.2 ⟨fun u here _ => h.2 u here, h.1⟩
  | .string s => exact (Follows.cons rfl h.1).1
  | .array [] => exact (Follows.cons rfl (Follows.cons rfl h.1).1).1
  | .array (item :: items) =>
    rw [tokens, List.append_assoc, List.cons_append]
    exact (Follows.cons rfl (spaced_tokens item (follows_itemTokens items h.1))).1
  | .object [] => exact (Follows.cons rfl (Follows.cons rfl h.1).1).1
  | .object ((k, v) :: members) =>
    rw [tokens, List.append_assoc, List.cons_append, List.cons_append, List.cons_append]
    have value := spaced_tokens v (follows_memberTokens members h.1)
    exact (Follows.cons rfl (Follows.cons rfl (Follows.cons rfl value).1).1).1

theorem follows_itemTokens (items : List Json) {rest : List Token} (h : Spaced rest) :
    Follows (itemTokens items ++ rest) := by
  match items with
  | [] => exact Follows.cons rfl h
  | item :: items =>
    rw [itemTokens, List.append_assoc, List.cons_append]
    exact Follows.cons rfl (spaced_tokens item (follows_itemTokens items h))

theorem follows_memberTokens (members : List (String × Json)) {rest : List Token}
    (h : Spaced rest) :
    Follows (memberTokens members ++ rest) := by
  match members with
  | [] => exact Follows.cons rfl h
  | (k, v) :: members =>
    rw [memberTokens, List.append_assoc, List.cons_append, List.cons_append, List.cons_append]
    have value := spaced_tokens v (follows_memberTokens members h)
    exact Follows.cons rfl (Follows.cons rfl (Follows.cons rfl value).1).1

end

def IsReadable (v : Json) : Prop := v.tokens.all Token.isReadable = true

theorem parse_render {v : Json} (readable : v.IsReadable) : parse v.render = some v := by
  have spaced : Spaced v.tokens := by
    have last : Follows [] := ⟨List.isChain_nil, by simp⟩
    simpa using spaced_tokens v last
  rw [parse, render, scan_tokens spaced (List.all_eq_true.1 readable)]
  exact ofTokens_tokens v

theorem printable_render {v : Json} (readable : v.IsReadable) :
    v.render.all isPrintable = true := by
  rw [render, List.all_flatMap, List.all_eq_true]
  exact fun t here => Token.printable_text (List.all_eq_true.1 readable t here)

theorem flatten_map_flatMap {α β : Type} (f : α → List β) (parts : List (List α)) :
    (parts.map (List.flatMap f)).flatten = parts.flatten.flatMap f := by
  rw [← List.flatMap_def, ← List.flatMap_id , List.flatMap_assoc]
  rfl

theorem Token.flatten_pieces (t : Token) : t.pieces.flatten = t.text := by
  cases t with
  | string s =>
    have runs (parts : List (List Char)) : (parts.map escape).flatten = escape parts.flatten :=
      flatten_map_flatMap escapeChar parts
    simp [pieces, Token.text, quote, runs, List.flatten_splitBy]
  | _ => simp [pieces]

theorem flatten_pieces (v : Json) : v.pieces.flatten = v.render := by
  rw [pieces, render, ← List.flatMap_id, List.flatMap_assoc]
  congr 1
  funext t
  simpa using t.flatten_pieces

end MessageTunnel.Json
