import SignIn.Error
import SignIn.Validation.Reading

/-!
# Configuration of a directory and of local accounts

Both say under which names a request carries the user name and the password. A directory also has a
scheme for its stored passwords, chosen here once and never guessed from a stored value.
-/

namespace SignIn

structure DirectoryConfig where
  platform : Text
  url : Option Text
  baseDn : Option Text
  bindDn : Option Text
  bindPassword : Option Text
  passwordScheme : Text
  idAttribute : Text
  passwordAttribute : Text
  usernameParam : Text
  passwordParam : Text
deriving DecidableEq

structure LocalConfig where
  platform : Text
  usernameParam : Text
  passwordParam : Text
deriving DecidableEq

open Reading in
def DirectoryConfig.ofRecord (fields : Record) : Validated DirectoryConfig :=
  DirectoryConfig.mk <$> field fields "platform" "ldap" text
    <*> optionalText fields "url"
    <*> optionalText fields "base_dn"
    <*> optionalText fields "bind_dn"
    <*> optionalText fields "bind_password"
    <*> field fields "password_scheme" "SSHA" text
    <*> field fields "id_attribute" "uid" text
    <*> field fields "password_attribute" "userPassword" text
    <*> field fields "username_param" "username" text
    <*> field fields "password_param" "password" text

open Reading in
def LocalConfig.ofRecord (fields : Record) : Validated LocalConfig :=
  LocalConfig.mk <$> field fields "platform" "local" text
    <*> field fields "username_param" "username" text
    <*> field fields "password_param" "password" text

end SignIn
