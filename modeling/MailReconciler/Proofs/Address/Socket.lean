/-
Socket addresses are read back from their texts.
-/
import MailReconciler.Address.Socket
import MailReconciler.Proofs.Address.Internet

namespace MailReconciler.SocketAddress

variable {rest : List Char}

theorem numberBelow?_toDigits {bound n : Nat} (hlt : n < bound) (hrest : EndsNumber 10 rest) :
    numberBelow? bound (Nat.toDigits 10 n ++ rest) = some (n, rest) := by
  unfold numberBelow?
  rw [takeNumber?_toDigits (by decide) (by decide) n hrest]
  exact if_pos hlt

theorem port?_toDigits (port : UInt16) : port? (':' :: Nat.toDigits 10 port.toNat) = some port := by
  have hnumber : numberBelow? UInt16.size (Nat.toDigits 10 port.toNat) = some (port.toNat, []) := by
    have hend := @numberBelow?_toDigits [] _ _ port.toNat_lt (fun c hc => by cases hc)
    rwa [List.append_nil] at hend
  simp [port?, dropChar?, hnumber]

/-- The text of a scope: nothing for none. -/
def scopeText (scope : UInt32) : List Char := if scope = 0 then [] else '%' :: Nat.toDigits 10 scope.toNat

theorem scope?_scopeText (scope : UInt32) (behind : List Char) :
    scope? (scopeText scope ++ ']' :: behind) = some (scope, ']' :: behind) := by
  unfold scopeText
  split
  · next hzero =>
    rw [hzero]
    rfl
  · show (numberBelow? UInt32.size (Nat.toDigits 10 scope.toNat ++ ']' :: behind)).map _ = _
    rw [numberBelow?_toDigits scope.toNat_lt (endsNumber_cons (by decide) _)]
    simp

theorem endsGroups_scopeText (scope : UInt32) (behind : List Char) :
    Ipv6.EndsGroups (scopeText scope ++ ']' :: behind) := by
  have hends : ∀ c ∈ ['%', ']'], ∀ rest, Ipv6.EndsGroups (c :: rest) := by
    intro c hc rest
    simp only [List.mem_cons, List.not_mem_nil, or_false] at hc
    rcases hc with rfl | rfl
    · exact ⟨endsNumber_cons (by decide) _, by simp, fun t ht => by cases ht⟩
    · exact ⟨endsNumber_cons (by decide) _, by simp, fun t ht => by cases ht⟩
  unfold scopeText
  split
  · exact hends ']' (by simp) _
  · exact hends '%' (by simp) _

theorem parse?_render (a : SocketAddress) : parse? a.render = some a := by
  cases a with
  | v4 address port =>
    have htext : (render (.v4 address port)).toList = address.render.toList ++ ':' :: Nat.toDigits 10 port.toNat := by
      simp [render]
    have htake := Ipv4.take?_render address (endsNumber_cons (show digitOf? 10 ':' = none by decide)
      (Nat.toDigits 10 port.toNat))
    unfold parse?
    rw [htext]
    split
    · next rest hbracket =>
      rw [hbracket, Ipv4.take?_of_endsNumber (endsNumber_cons (by decide) _)] at htake
      cases htake
    · rw [htake]
      simp [port?_toDigits]
  | v6 address scope port =>
    have htext : (render (.v6 address scope port)).toList =
        '[' :: (address.render.toList ++ (scopeText scope ++ ']' :: ':' :: Nat.toDigits 10 port.toNat)) := by
      by_cases hzero : scope = 0 <;> simp [render, scopeText, hzero]
    have htake := Ipv6.take?_render address (endsGroups_scopeText scope (':' :: Nat.toDigits 10 port.toNat))
    unfold parse?
    rw [htext]
    simp [htake, scope?_scopeText, dropChar?, port?_toDigits]

/-- An address that is mapped, on a link. -/
example : parse? "[::ffff:127.0.0.1%7]:8080" =
    some (.v6 ⟨[0, 0, 0, 0, 0, 0xFFFF, 0x7F00, 1], rfl⟩ 7 8080) := by decide

end MailReconciler.SocketAddress
