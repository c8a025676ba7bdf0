import GatedFlow.Text.Ranges

/-! # Letters that differ only in case

Simple case folding sends each character to one representative; characters with the same representative
are equal when case is ignored. -/

namespace GatedFlow

/-- The characters that are not their own representative. -/
def foldText : String :=
  "61:1a:1:-20 e0:17:1:-20 f8:7:1:-20 101:18:2:-1 133:3:2:-1 13a:8:2:-1 14b:17:2:-1 178:1:1:-79 17a:3:2:-1 " ++
  "17f:1:1:-12c 183:2:2:-1 188:1:1:-1 18c:1:1:-1 192:1:1:-1 199:1:1:-1 1a1:3:2:-1 1a8:1:1:-1 1ad:1:1:-1 " ++
  "1b0:1:1:-1 1b4:2:2:-1 1b9:1:1:-1 1bd:1:1:-1 1c5:1:1:-1 1c6:1:1:-2 1c8:1:1:-1 1c9:1:1:-2 1cb:1:1:-1 " ++
  "1cc:1:1:-2 1ce:8:2:-1 1dd:1:1:-4f 1df:9:2:-1 1f2:1:1:-1 1f3:1:1:-2 1f5:1:1:-1 1f6:1:1:-61 1f7:1:1:-38 " ++
  "1f9:14:2:-1 220:1:1:-82 223:9:2:-1 23c:1:1:-1 23d:1:1:-a3 242:1:1:-1 243:1:1:-c3 247:5:2:-1 253:1:1:-d2 " ++
  "254:1:1:-ce 256:2:1:-cd 259:1:1:-ca 25b:1:1:-cb 260:1:1:-cd 263:1:1:-cf 268:1:1:-d1 269:1:1:-d3 " ++
  "26f:1:1:-d3 272:1:1:-d5 275:1:1:-d6 280:1:1:-da 283:1:1:-da 288:1:1:-da 289:1:1:-45 28a:2:1:-d9 " ++
  "28c:1:1:-47 292:1:1:-db 371:2:2:-1 377:1:1:-1 399:1:1:-54 39c:1:1:-2e7 3ac:1:1:-26 3ad:3:1:-25 " ++
  "3b1:8:1:-20 3b9:1:1:-74 3ba:2:1:-20 3bc:1:1:-307 3bd:5:1:-20 3c2:1:1:-1f 3c3:9:1:-20 3cc:1:1:-40 " ++
  "3cd:2:1:-3f 3d0:1:1:-3e 3d1:1:1:-39 3d5:1:1:-2f 3d6:1:1:-36 3d7:1:1:-8 3d9:c:2:-1 3f0:1:1:-56 " ++
  "3f1:1:1:-50 3f3:1:1:-74 3f4:1:1:-5c 3f5:1:1:-60 3f8:1:1:-1 3f9:1:1:-7 3fb:1:1:-1 3fd:3:1:-82 " ++
  "430:20:1:-20 450:10:1:-50 461:11:2:-1 48b:1b:2:-1 4c2:7:2:-1 4cf:1:1:-f 4d1:30:2:-1 561:26:1:-30 " ++
  "13f8:6:1:-8 1c80:1:1:-186e 1c81:1:1:-186d 1c82:1:1:-1864 1c83:2:1:-1862 1c85:1:1:-1863 1c86:1:1:-185c " ++
  "1c87:1:1:-1825 1c8a:1:1:-1 1c90:2b:1:-bc0 1cbd:3:1:-bc0 1e01:4b:2:-1 1e9b:1:1:-3b 1e9e:1:1:-1dbf " ++
  "1ea1:30:2:-1 1f08:8:1:-8 1f18:6:1:-8 1f28:8:1:-8 1f38:8:1:-8 1f48:6:1:-8 1f59:4:2:-8 1f68:8:1:-8 " ++
  "1f88:8:1:-8 1f98:8:1:-8 1fa8:8:1:-8 1fb8:2:1:-8 1fba:2:1:-4a 1fbc:1:1:-9 1fbe:1:1:-1c79 1fc8:4:1:-56 " ++
  "1fcc:1:1:-9 1fd8:2:1:-8 1fda:2:1:-64 1fe8:2:1:-8 1fea:2:1:-70 1fec:1:1:-7 1ff8:2:1:-80 1ffa:2:1:-7e " ++
  "1ffc:1:1:-9 2126:1:1:-1d7d 212a:1:1:-20df 212b:1:1:-2066 214e:1:1:-1c 2170:10:1:-10 2184:1:1:-1 " ++
  "24d0:1a:1:-1a 2c30:30:1:-30 2c61:1:1:-1 2c62:1:1:-29f7 2c63:1:1:-ee6 2c64:1:1:-29e7 2c65:1:1:-2a2b " ++
  "2c66:1:1:-2a28 2c68:3:2:-1 2c6d:1:1:-2a1c 2c6e:1:1:-29fd 2c6f:1:1:-2a1f 2c70:1:1:-2a1e 2c73:1:1:-1 " ++
  "2c76:1:1:-1 2c7e:2:1:-2a3f 2c81:32:2:-1 2cec:2:2:-1 2cf3:1:1:-1 2d00:26:1:-1c60 2d27:1:1:-1c60 " ++
  "2d2d:1:1:-1c60 a641:5:2:-1 a64a:1:1:-89c2 a64b:1:1:-89c3 a64d:11:2:-1 a681:e:2:-1 a723:7:2:-1 " ++
  "a733:1f:2:-1 a77a:2:2:-1 a77d:1:1:-8a04 a77f:5:2:-1 a78c:1:1:-1 a78d:1:1:-a528 a791:2:2:-1 a797:a:2:-1 " ++
  "a7aa:1:1:-a544 a7ab:1:1:-a54f a7ac:1:1:-a54b a7ad:1:1:-a541 a7ae:1:1:-a544 a7b0:1:1:-a512 " ++
  "a7b1:1:1:-a52a a7b2:1:1:-a515 a7b5:8:2:-1 a7c4:1:1:-30 a7c5:1:1:-a543 a7c6:1:1:-8a38 a7c8:2:2:-1 " ++
  "a7cb:1:1:-a567 a7cd:8:2:-1 a7dc:1:1:-a641 a7f6:1:1:-1 ab53:1:1:-3a0 ab70:50:1:-97d0 ff41:1a:1:-20 " ++
  "10428:28:1:-28 104d8:24:1:-28 10597:b:1:-27 105a3:f:1:-27 105b3:7:1:-27 105bb:2:1:-27 10cc0:33:1:-40 " ++
  "10d70:16:1:-20 118c0:20:1:-20 16e60:20:1:-20 16ebb:19:1:-1b 1e922:22:1:-22"

def foldRuns : List ShiftRun := shiftRunsOfText foldText

def foldCase (n : Nat) : Nat := shiftBy foldRuns n

/-- The code points equal to `n` when case is ignored, `n` among them. -/
def caseVariants (n : Nat) : List Nat :=
  let base := foldCase n
  base :: foldRuns.filterMap fun r =>
    let m := ((base : Int) - r.shift).toNat
    if r.holds m && (m : Int) + r.shift == base then some m else none

end GatedFlow
