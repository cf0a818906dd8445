import RadioControl.Types
import RadioControl.SilvusAdapter
import RadioControl.AdapterRuns
import RadioControl.UnorderedMap
import RadioControl.RadioManager
import RadioControl.Registry
import RadioControl.RegistryRuns
import RadioControl.RegistryLocking
import RadioControl.RegistryLoad
import RadioControl.Authenticator
import RadioControl.Authorization
import RadioControl.Binary64
import RadioControl.Strtod
import RadioControl.Duration
import RadioControl.Yaml
import RadioControl.ConfigLoad
import RadioControl.ConfigMarks
import RadioControl.ConfigFile
import RadioControl.Interleaving
import RadioControl.ConfigWrite
import RadioControl.Container
