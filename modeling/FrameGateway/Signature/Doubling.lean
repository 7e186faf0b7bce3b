/-! Many copies of one value combined, by doubling: as many steps as their number has binary digits. Powers
are products of copies, and multiples of a point are sums. -/

namespace FrameGateway

/-- `n` copies of `a` combined, where `n` has at most `w` binary digits; none at all amount to `e`. -/
def copies (op : α → α → α) (e : α) : Nat → Nat → α → α
  | 0, _, _ => e
  | w + 1, n, a =>
    let rest := copies op e w (n / 2) (op a a)
    if n % 2 = 1 then op a rest else rest

end FrameGateway
