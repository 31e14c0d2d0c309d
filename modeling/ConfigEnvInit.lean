import ConfigEnvInit.PropertyValue
import ConfigEnvInit.Render
import ConfigEnvInit.Confinement
import ConfigEnvInit.EnvName
import ConfigEnvInit.Command
import ConfigEnvInit.Run
import ConfigEnvInit.Protocol
import ConfigEnvInit.Refinement
