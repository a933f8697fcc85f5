import QueueBoard.Json.Grammar

/-! # Values written in another way

A value can be written with other blanks between its tokens and with other spellings of its texts. Where
a value is passed over it does not matter what its texts say, so here any text is a rewriting of any
other. A rewriting of a value is a value.
-/
namespace QueueBoard.Json

mutual

/-- Two ways to write a value, up to what its texts say. -/
inductive Rewritten : Bytes → Bytes → Prop
  | scalar {s : Bytes} : IsScalar s → Rewritten s s
  | text {k l : Bytes} : LooseText k → LooseText l → Rewritten (0x22 :: k ++ [0x22]) (0x22 :: l ++ [0x22])
  | noElements (gap gap' : Gap) :
      Rewritten (0x5B :: gap.bytes ++ [0x5D]) (0x5B :: gap'.bytes ++ [0x5D])
  | elements {s t : Bytes} :
      ElementsRewritten s t → Rewritten (0x5B :: s ++ [0x5D]) (0x5B :: t ++ [0x5D])
  | noMembers (gap gap' : Gap) :
      Rewritten (0x7B :: gap.bytes ++ [0x7D]) (0x7B :: gap'.bytes ++ [0x7D])
  | members {s t : Bytes} :
      MembersRewritten s t → Rewritten (0x7B :: s ++ [0x7D]) (0x7B :: t ++ [0x7D])

inductive ElementsRewritten : Bytes → Bytes → Prop
  | last {s t : Bytes} (before after before' after' : Gap) : Rewritten s t →
      ElementsRewritten (before.bytes ++ s ++ after.bytes) (before'.bytes ++ t ++ after'.bytes)
  | more {s t r u : Bytes} (before after before' after' : Gap) : Rewritten s t →
      ElementsRewritten r u →
      ElementsRewritten (before.bytes ++ s ++ after.bytes ++ 0x2C :: r)
        (before'.bytes ++ t ++ after'.bytes ++ 0x2C :: u)

inductive MembersRewritten : Bytes → Bytes → Prop
  | last {k l s t : Bytes} (before colon value after before' colon' value' after' : Gap) :
      LooseText k → LooseText l → Rewritten s t →
      MembersRewritten
        (before.bytes ++ 0x22 :: k ++ 0x22 :: colon.bytes ++ 0x3A :: value.bytes ++ s ++ after.bytes)
        (before'.bytes ++ 0x22 :: l ++ 0x22 :: colon'.bytes ++ 0x3A :: value'.bytes ++ t ++ after'.bytes)
  | more {k l s t r u : Bytes} (before colon value after before' colon' value' after' : Gap) :
      LooseText k → LooseText l → Rewritten s t → MembersRewritten r u →
      MembersRewritten
        (before.bytes ++ 0x22 :: k ++ 0x22 :: colon.bytes ++ 0x3A :: value.bytes ++ s ++ after.bytes
          ++ 0x2C :: r)
        (before'.bytes ++ 0x22 :: l ++ 0x22 :: colon'.bytes ++ 0x3A :: value'.bytes ++ t ++ after'.bytes
          ++ 0x2C :: u)

end

mutual

theorem Rewritten.isValue : ∀ {s t : Bytes}, Rewritten s t → IsValue t
  | _, _, .scalar h => .scalar h
  | _, _, .text _ h => .scalar (.text h)
  | _, _, .noElements _ gap' => .noElements gap'
  | _, _, .elements h => .elements h.isElements
  | _, _, .noMembers _ gap' => .noMembers gap'
  | _, _, .members h => .members h.isMembers

theorem ElementsRewritten.isElements : ∀ {s t : Bytes}, ElementsRewritten s t → IsElements t
  | _, _, .last _ _ before' after' h => .last before' after' h.isValue
  | _, _, .more _ _ before' after' h hr => .more before' after' h.isValue hr.isElements

theorem MembersRewritten.isMembers : ∀ {s t : Bytes}, MembersRewritten s t → IsMembers t
  | _, _, .last _ _ _ _ before' colon' value' after' _ hl h =>
    .last before' colon' value' after' hl h.isValue
  | _, _, .more _ _ _ _ before' colon' value' after' _ hl h hr =>
    .more before' colon' value' after' hl h.isValue hr.isMembers

end

end QueueBoard.Json
