import FileSieve.Digest.Md5
import FileSieve.Digest.Sha1
import FileSieve.Digest.Sha2

namespace FileSieve

inductive Algorithm where
  | md5
  | sha1
  | sha224
  | sha256
  | sha384
  | sha512
  deriving DecidableEq, Repr

namespace Algorithm

def all : List Algorithm := [md5, sha1, sha224, sha256, sha384, sha512]

def name : Algorithm → String
  | md5 => "MD5"
  | sha1 => "SHA1"
  | sha224 => "SHA224"
  | sha256 => "SHA256"
  | sha384 => "SHA384"
  | sha512 => "SHA512"

def ofName? (text : List Char) : Option Algorithm :=
  all.find? fun algorithm => algorithm.name.toList == text.map Char.toUpper

def digestLength : Algorithm → Nat
  | md5 => 16
  | sha1 => 20
  | sha224 => 28
  | sha256 => 32
  | sha384 => 48
  | sha512 => 64

def digest (message : Bytes) : Algorithm → Bytes
  | md5 => Digest.Md5.hash message
  | sha1 => Digest.Sha1.hash message
  | sha224 => Digest.Sha2.hash Digest.Sha2.narrow Digest.Sha2.initial224 28 message
  | sha256 => Digest.Sha2.hash Digest.Sha2.narrow Digest.Sha2.initial256 32 message
  | sha384 => Digest.Sha2.hash Digest.Sha2.wide Digest.Sha2.initial384 48 message
  | sha512 => Digest.Sha2.hash Digest.Sha2.wide Digest.Sha2.initial512 64 message

theorem length_digest (algorithm : Algorithm) (message : Bytes) :
    (algorithm.digest message).length = algorithm.digestLength := by
  cases algorithm <;>
    simp [digest, digestLength, Digest.Md5.hash, Digest.Sha1.hash, Digest.Sha2.hash, Digest.Sha2.narrow,
      Digest.Sha2.wide, Digest.length_bytesOf]

end Algorithm
end FileSieve
