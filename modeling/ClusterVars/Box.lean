/-! The operating systems a machine can run and the image behind each. -/
namespace ClusterVars

structure Box where
  os : String
  image : String
  /-- The account that the image is prepared for. -/
  user : String
  deriving DecidableEq, Repr

namespace Box

def all : List Box :=
  [⟨"flatcar-stable", "flatcar-stable", "core"⟩,
    ⟨"ubuntu1604", "generic/ubuntu1604", "vagrant"⟩,
    ⟨"ubuntu1804", "generic/ubuntu1804", "vagrant"⟩,
    ⟨"ubuntu2004", "generic/ubuntu2004", "vagrant"⟩,
    ⟨"ubuntu2204", "generic/ubuntu2204", "vagrant"⟩,
    ⟨"ubuntu2404", "bento/ubuntu-24.04", "vagrant"⟩,
    ⟨"centos8", "centos/8", "vagrant"⟩,
    ⟨"almalinux8", "almalinux/8", "vagrant"⟩,
    ⟨"rockylinux8", "rockylinux/8", "vagrant"⟩,
    ⟨"rockylinux9", "rockylinux/9", "vagrant"⟩,
    ⟨"fedora39", "fedora/39-cloud-base", "vagrant"⟩,
    ⟨"opensuse", "opensuse/Leap-15.4.x86_64", "vagrant"⟩,
    ⟨"oraclelinux8", "generic/oracle8", "vagrant"⟩,
    ⟨"debian11", "debian/bullseye64", "vagrant"⟩,
    ⟨"debian12", "debian/bookworm64", "vagrant"⟩]

def ofOs? (os : String) : Option Box := all.find? (·.os = os)

end Box
end ClusterVars
