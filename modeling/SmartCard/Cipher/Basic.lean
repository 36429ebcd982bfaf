import SmartCard.Bytes.Block

/-!
# Block ciphers and their modes

A block cipher under a fixed key is a pair of maps on blocks (`BlockCipher`). The modes are written
once, over any block cipher:

* `BlockCipher.ecbEncrypt` enciphers each block on its own;
* `BlockCipher.cbcEncrypt` combines each block with the enciphered block before it, starting from
  an initial chaining value;
* `BlockCipher.cbcMac` keeps the last chaining value only.

A cipher is `Lawful` when its two maps are inverse to each other; the modes then invert as well
(`BlockCipher.Lawful.cbcDecrypt_cbcEncrypt`).
-/

namespace SmartCard

/-- A block cipher under a fixed key. -/
structure BlockCipher (n : Nat) where
  encrypt : Block n → Block n
  decrypt : Block n → Block n

namespace BlockCipher

variable {n : Nat}

/-- The two maps of the cipher are inverse to each other. -/
structure Lawful (c : BlockCipher n) : Prop where
  decrypt_encrypt : ∀ b, c.decrypt (c.encrypt b) = b
  encrypt_decrypt : ∀ b, c.encrypt (c.decrypt b) = b

def ecbEncrypt (c : BlockCipher n) (blocks : List (Block n)) : List (Block n) :=
  blocks.map c.encrypt

def ecbDecrypt (c : BlockCipher n) (blocks : List (Block n)) : List (Block n) :=
  blocks.map c.decrypt

/-- Enciphers each block combined with the enciphered block before it; `iv` stands before the
first one. -/
def cbcEncrypt (c : BlockCipher n) (iv : Block n) : List (Block n) → List (Block n)
  | [] => []
  | plain :: rest =>
    let sealed := c.encrypt (iv ^^^ plain)
    sealed :: c.cbcEncrypt sealed rest

def cbcDecrypt (c : BlockCipher n) (iv : Block n) : List (Block n) → List (Block n)
  | [] => []
  | sealed :: rest => (c.decrypt sealed ^^^ iv) :: c.cbcDecrypt sealed rest

def cbcMac (c : BlockCipher n) (iv : Block n) (blocks : List (Block n)) : Block n :=
  blocks.foldl (fun chain plain => c.encrypt (chain ^^^ plain)) iv

@[simp] theorem length_cbcEncrypt (c : BlockCipher n) (iv : Block n) (blocks : List (Block n)) :
    (c.cbcEncrypt iv blocks).length = blocks.length := by
  induction blocks generalizing iv with
  | nil => rfl
  | cons _ _ ih => simp [cbcEncrypt, ih]

@[simp] theorem length_cbcDecrypt (c : BlockCipher n) (iv : Block n) (blocks : List (Block n)) :
    (c.cbcDecrypt iv blocks).length = blocks.length := by
  induction blocks generalizing iv with
  | nil => rfl
  | cons _ _ ih => simp [cbcDecrypt, ih]

@[simp] theorem cbcMac_nil (c : BlockCipher n) (iv : Block n) : c.cbcMac iv [] = iv := rfl

@[simp] theorem cbcMac_cons (c : BlockCipher n) (iv b : Block n) (bs : List (Block n)) :
    c.cbcMac iv (b :: bs) = c.cbcMac (c.encrypt (iv ^^^ b)) bs := rfl

/-- The chaining value is the last block that chaining encryption writes. -/
theorem getLastD_cbcEncrypt (c : BlockCipher n) (iv : Block n) (blocks : List (Block n)) :
    (c.cbcEncrypt iv blocks).getLastD iv = c.cbcMac iv blocks := by
  induction blocks generalizing iv with
  | nil => rfl
  | cons b bs ih => simp only [cbcEncrypt, List.getLastD_cons, cbcMac_cons, ih]

/-- Chained decryption undoes chained encryption. -/
theorem Lawful.cbcDecrypt_cbcEncrypt {c : BlockCipher n} (h : c.Lawful) (iv : Block n)
    (blocks : List (Block n)) : c.cbcDecrypt iv (c.cbcEncrypt iv blocks) = blocks := by
  induction blocks generalizing iv with
  | nil => rfl
  | cons b bs ih =>
    simp only [cbcEncrypt, cbcDecrypt, h.decrypt_encrypt, ih, List.cons.injEq, and_true]
    rw [Block.xor_comm iv b, Block.xor_xor_cancel]

end BlockCipher

end SmartCard
